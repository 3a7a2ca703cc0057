import PaymentBackend.Accounts
import PaymentBackend.Service

namespace PaymentBackend

open Library Library.Action

-- bool(value). A number is false where no digit of its mantissa is.
def truthy : Json → Bool
  | .null => false
  | .bool b => b
  | .number text => (text.toList.takeWhile fun c => c ≠ 'e' ∧ c ≠ 'E').any fun c => c.isDigit ∧ c ≠ '0'
  | .string s => s ≠ ""
  | .array items => items ≠ .nil
  | .object members => members ≠ .nil

def empty_dict : Json := .object .nil

variable (rules : EmailRules)

namespace CustomerRepository

-- get() raises where several rows match.
def get_by_email (d : Db) (email : String) (merchant : MerchantProfile) : Except Exc (Option CustomerProfile) :=
  match d.customers.rows.filter fun c =>
    rules.iexact c.email email ∧ c.merchant = merchant.id ∧ ¬ c.is_deleted with
  | [] => .ok none
  | [customer] => .ok (some customer)
  | _ => .error .multiple_objects_returned

def create_customer (env : Env) (merchant : MerchantProfile) (name email : String) (phone : Option String)
    (metadata : Json) : CustomerProfile where
  id := env.new_id
  merchant := merchant.id
  name
  email := rules.lower email
  phone
  metadata := if truthy metadata then metadata else empty_dict
  is_deleted := false
  deleted_at := none

end CustomerRepository

-- validated_data of create_customer.
structure CustomerData where
  name : String
  email : String
  phone : Option String
  metadata : Option Json
  deriving DecidableEq, Repr

-- The fields a PATCH names. A metadata of null is none as well.
structure CustomerChange where
  name : Option String
  email : Option String
  phone : Option String
  metadata : Option Json
  deriving DecidableEq, Repr

namespace CustomerRepository

-- setattr of what is not None.
def update_customer (customer : CustomerProfile) (data : CustomerChange) : CustomerProfile :=
  { customer with
    name := data.name.getD customer.name
    email := data.email.getD customer.email
    phone := data.phone.or customer.phone
    metadata := data.metadata.getD customer.metadata }

end CustomerRepository

namespace CustomerService

def create_customer (merchant_user : User) (data : CustomerData) : Svc CustomerProfile := do
  let merchant ← MerchantService.get_or_create_profile merchant_user
  let email := rules.lower data.email
  match ← query fun d => CustomerRepository.get_by_email rules d email merchant with
  | some _ => raise .customer_exists
  | none =>
      let customer ← ask fun env => CustomerRepository.create_customer rules env merchant data.name email
        data.phone (data.metadata.getD empty_dict)
      execute (.insertCustomer customer)
      return customer

-- get(id=..) of a text that is no UUID raises.
def find_customer (d : Db) (merchant : MerchantProfile) (customer_id : Identifier) : Except Exc CustomerProfile :=
  match customer_id.uuid with
  | none => .error .malformed_uuid
  | some id =>
      match CustomerRepository.get_by_id d id merchant with
      | some customer => .ok customer
      | none => .error .customer_not_found

def get_customer (merchant_user : User) (customer_id : Identifier) : Svc CustomerProfile := do
  let merchant ← MerchantService.get_or_create_profile merchant_user
  query fun d => find_customer d merchant customer_id

def update_customer (merchant_user : User) (customer_id : Identifier) (data : CustomerChange) :
    Svc CustomerProfile := do
  let customer ← get_customer merchant_user customer_id
  let customer := CustomerRepository.update_customer customer data
  execute (.saveCustomer customer)
  return customer

def delete_customer (merchant_user : User) (customer_id : Identifier) : Svc Bool := do
  let merchant ← MerchantService.get_or_create_profile merchant_user
  let customer ← query fun d => find_customer d merchant customer_id
  let now ← ask Env.now
  execute (.saveCustomerDeleted customer.id now)
  return true

end CustomerService

end PaymentBackend
