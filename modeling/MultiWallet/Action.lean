set_option autoImplicit false

namespace MultiWallet

inductive Action where
  | viewActivity
  | send
  | receive
  | swap
  | sell
  | summary
  | interestDeposit
deriving DecidableEq, Repr

namespace Action

def all : List Action := [viewActivity, send, receive, swap, sell, summary, interestDeposit]

def name : Action → String
  | viewActivity => "view_activity"
  | send => "send"
  | receive => "receive"
  | swap => "swap"
  | sell => "sell"
  | summary => "summary"
  | interestDeposit => "interest_deposit"

def title : Action → String
  | viewActivity => "ViewActivity"
  | send => "Send"
  | receive => "Receive"
  | swap => "Swap"
  | sell => "Sell"
  | summary => "Summary"
  | interestDeposit => "InterestDeposit"

def ofName? (text : String) : Option Action := all.find? (·.name == text)

theorem name_injective {a b : Action} (h : a.name = b.name) : a = b := by
  cases a <;> cases b <;> simp_all [name]

end Action

abbrev Permissions := List Action

namespace Permissions

def nonCustodial : Permissions := [.viewActivity, .send, .receive, .swap, .sell]

def custodial : Permissions := [.viewActivity, .send, .swap, .sell, .interestDeposit]

def none : Permissions := []

def permits (permissions : Permissions) (action : Action) : Bool := permissions.elem action

def listed (permissions : Permissions) : List Action := Action.all.filter permissions.permits

end Permissions

end MultiWallet
