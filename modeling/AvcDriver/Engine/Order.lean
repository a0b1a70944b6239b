import AvcDriver.Engine.Gray
import AvcDriver.Engine.Script

/-!
# Engines made to order

A factory from a list of orders: the first engine asked for is made by the first
order, and so on; the last order stands for all that follow.
-/

namespace AvcDriver.Engine

/-- Which engine to make. -/
inductive Order where
  | gray
  | script (entries : List ScriptEntry)
  /-- none, because making it fails -/
  | initError (code : Int32)

/-- The engine of an order. -/
def Order.make (params : Params) : Order → Except DecodeError (Gray ⊕ Script)
  | gray => (Gray.make params).map .inl
  | script entries => .ok (.inr { entries })
  | initError code => .error (.engineInit code)

/-- The factory that works through a list of orders. -/
def Factory.ofOrders (orders : List Order) : Factory (Gray ⊕ Script) := fun earlier params =>
  match orders[earlier]? <|> orders.getLast? with
  | some order => order.make params
  | none => .error (.engineInit (-1))

/-- The factory of gray engines. -/
def Factory.gray : Factory Gray := fun _ params => Gray.make params

end AvcDriver.Engine
