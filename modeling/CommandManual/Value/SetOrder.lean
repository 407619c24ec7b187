import CommandManual.Value.Basic

/-!
# The order of a set

The members of a set have no order, but the text of a set lists them in one. A run of the program
has an order of its own, which the next run need not have. So the order is a parameter of everything
that reads a set, and what is proved of a run is proved for all orders.

## Main definitions

* `SetOrder`: the orders.
* `SetOrder.byRemainder`: the one that is used if nothing else is said.
-/

namespace CommandManual

/-- An order in which the members of sets are listed. None of them is lost or repeated. -/
structure SetOrder where
  list : List Value → List Value
  perm (vs : List Value) : (list vs).Perm vs

/-- Numbers go by their remainders by a power of two, which is at least eight and, from five members
on, more than twice their count. Other members stay as they are. -/
def SetOrder.byRemainder : SetOrder where
  list vs :=
    let size : Nat := if vs.length < 5 then 8 else Nat.pow 2 ((2 * vs.length).log2 + 1)
    let place (v : Value) : Int := v.asInt?.getD 0 % size
    if vs.all (·.asInt?.isSome) then vs.mergeSort fun v w => place v ≤ place w else vs
  perm vs := by
    dsimp only
    split
    · exact List.mergeSort_perm vs _
    · exact .refl vs

end CommandManual
