import TeamPresence.Fault

/-!
# The registration memo

A memo holds the last registration of each of a bounded number of senders, the least recent first.
A sender that registers again moves to the end, and the least recent ones are forgotten beyond the
bound.
-/

namespace TeamPresence

/-- Where a datagram comes from. -/
structure Address where
  host : String
  port : Int
deriving Repr, DecidableEq

/-- A registration that was acknowledged. -/
structure Registration where
  sender : Address
  name : String
  networkId : Nat
deriving Repr, DecidableEq

/-- The remembered registrations, the least recent first. -/
structure Memo where
  /-- One entry for each sender. -/
  entries : List Registration
deriving Repr, DecidableEq

namespace Memo

def empty : Memo := ⟨[]⟩

/-- The last registration of a sender. -/
def find? (m : Memo) (sender : Address) : Option Registration :=
  m.entries.find? fun e => e.sender == sender

/-- The memo with one more registration as the most recent one. -/
def push (m : Memo) (r : Registration) : Memo :=
  ⟨m.entries.filter (fun e => e.sender != r.sender) ++ [r]⟩

/-- The memo without its least recent entries beyond a bound. -/
def bound (m : Memo) (size : Int) : Memo := ⟨m.entries.drop (m.entries.length - size.toNat)⟩

/-- The memo after a registration. A bound below zero cannot be kept: the memo runs out first. -/
def remember (m : Memo) (size : Int) (r : Registration) : Except Fault Unit × Memo :=
  (if size < 0 then .error .memoExhausted else .ok (), (m.push r).bound size)

theorem length_bound_le (m : Memo) {size : Int} (h : 0 ≤ size) :
    ((m.bound size).entries.length : Int) ≤ size := by
  simp only [bound, List.length_drop]
  omega

end Memo

end TeamPresence
