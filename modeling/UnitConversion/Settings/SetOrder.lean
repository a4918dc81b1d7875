import UnitConversion.Settings.Datum

/-!
# The order of sets

A set shows its members by their places in a table with room to spare. A number asks for the place
that its residue modulo a prime names and goes on to others while the place is taken. Members that
are no numbers have no order of their own and come last, as they were put in. Wherever the members
go, none of them is lost or shown twice (`setOrder_perm`).
-/

namespace UnitConversion.Datum

/-- The prime modulo which numbers have their residues. Modulo it, halving is the same as doubling
sixty times. -/
def residuePrime : Nat := Nat.pow 2 61 - 1

/-- The residue of a number, with its sign; minus one is taken for minus two. -/
def residue? (datum : Datum) : Option Int :=
  match fraction? datum, datum with
  | some (numerator, denominator), _ =>
    let magnitude := numerator.natAbs * Nat.pow 2 (61 - denominator.log2 % 61) % residuePrime
    let residue : Int := if numerator < 0 then -magnitude else magnitude
    some (if residue = -1 then -2 else residue)
  | none, float value =>
    if value.isNaN then none else some (if Numeric.isNegative value then -314159 else 314159)
  | none, _ => none

/-- The size of the table for a number of members: at least eight, and more than twice as many as
there are members if these are more than four. -/
def tableSize (count : Nat) : Nat := if count ≤ 4 then 8 else Nat.pow 2 ((2 * count).log2 + 1)

/-- The places that a member asks for, first to last: a place and the nine after it if they are all
in the table, then a place further on that also depends on what is left of the residue. -/
def placesAsked (size : Nat) : Nat → Nat → Nat → List Nat
  | 0, _, _ => []
  | fuel + 1, place, left =>
    (if place + 9 < size then List.range' place 10 else [place]) ++
      placesAsked size fuel ((5 * place + 1 + left / 32) % size) (left / 32)

/-- The members of a table with one more put in at the first free place that it asks for. When
nothing is left of a residue, the places asked for are all places in turn. -/
def putMember (size : Nat) (table : List (Nat × Datum)) (member : Datum) : List (Nat × Datum) :=
  let places := match member.residue? with
    | some residue =>
      placesAsked size (size + 13) (residue % (size : Int)).toNat (residue % Int.pow 2 64).toNat
    | none => []
  let free (place : Nat) : Bool := table.all (·.1 != place)
  table.concat ((places.find? free).getD size, member)

/-- The members of a set in the order in which they are shown. -/
def setOrder (members : List Datum) : List Datum :=
  let table := members.foldl (putMember (tableSize members.length)) []
  (table.mergeSort fun left right => left.1 ≤ right.1).map (·.2)

/-- Putting members in adds them behind those that are there. -/
theorem map_foldl_putMember (size : Nat) (members : List Datum) (table : List (Nat × Datum)) :
    (members.foldl (putMember size) table).map (·.2) = table.map (·.2) ++ members := by
  induction members generalizing table with
  | nil => simp
  | cons member members ih => simp [ih, putMember]

/-- A set shows all its members, each of them once. -/
theorem setOrder_perm (members : List Datum) : (setOrder members).Perm members := by
  refine ((List.mergeSort_perm _ _).map _).trans ?_
  rw [map_foldl_putMember]
  exact .refl _

end UnitConversion.Datum
