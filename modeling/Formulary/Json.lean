import Formulary.Bytes

/-!
# JSON values

The values of JSON texts. An object keeps its members in the order in which they are to be written;
where the order of a foreign object is of no meaning it is sorted by key (`sorted`).

* `induction`: what passes from the members and items of a value to the value holds of every value;
* `height`: how deep arrays and objects nest.
-/

namespace Formulary

/-- A JSON number. -/
inductive Json.Number
  /-- A number written without point and exponent that fits a machine word. -/
  | integer (value : Int)
  /-- Any other number, as the bits of a double. -/
  | double (bits : UInt64)
  deriving DecidableEq

/-- A JSON value. -/
inductive Json
  | null
  | bool (value : Bool)
  | number (value : Json.Number)
  | string (value : String)
  | array (items : List Json)
  | object (members : List (String × Json))

namespace Json

/-- The number with the given integer value. -/
def int (n : Int) : Json := .number (.integer n)

/-- A property that passes from the parts of a value to the whole holds of all values. -/
@[induction_eliminator]
theorem induction {P : Json → Prop} (null : P null) (bool : ∀ value, P (bool value))
    (number : ∀ value, P (number value)) (string : ∀ value, P (string value))
    (array : ∀ items, (∀ v ∈ items, P v) → P (array items))
    (object : ∀ members, (∀ m ∈ members, P m.2) → P (object members)) (v : Json) : P v :=
  v.rec (motive_2 := fun items => ∀ v ∈ items, P v)
    (motive_3 := fun members => ∀ m ∈ members, P m.2) (motive_4 := fun m => P m.2)
    null bool number string array object
    (fun _ h => absurd h List.not_mem_nil)
    (fun _ _ h hs v hv => (List.mem_cons.1 hv).elim (fun e => e ▸ h) (hs v))
    (fun _ h => absurd h List.not_mem_nil)
    (fun _ _ h hs m hm => (List.mem_cons.1 hm).elim (fun e => e ▸ h) (hs m))
    fun _ _ h => h

mutual

/-- How deep arrays and objects nest in a value. -/
def height : Json → Nat
  | array items => 1 + itemsHeight items
  | object members => 1 + membersHeight members
  | _ => 0

/-- The greatest height among items. -/
def itemsHeight : List Json → Nat
  | [] => 0
  | v :: vs => max v.height (itemsHeight vs)

/-- The greatest height among members. -/
def membersHeight : List (String × Json) → Nat
  | [] => 0
  | (_, v) :: ms => max v.height (membersHeight ms)

end

/-- Puts a member among members sorted by key, in place of one with its key. -/
def insertMember (key : String) (v : Json) : List (String × Json) → List (String × Json)
  | [] => [(key, v)]
  | m :: ms =>
    if key < m.1 then (key, v) :: m :: ms
    else if key = m.1 then (key, v) :: ms
    else m :: insertMember key v ms

/-- The members sorted by key; of members with the same key the last one stays. -/
def sortMembers (members : List (String × Json)) : List (String × Json) :=
  members.foldl (fun ms m => insertMember m.1 m.2 ms) []

mutual

/-- The value with the members of every object sorted by key. -/
def sorted : Json → Json
  | array items => array (sortedItems items)
  | object members => object (sortMembers (sortedMembers members))
  | v => v

/-- The items with the members of every object sorted by key. -/
def sortedItems : List Json → List Json
  | [] => []
  | v :: vs => v.sorted :: sortedItems vs

/-- The members, the objects among their values sorted by key. -/
def sortedMembers : List (String × Json) → List (String × Json)
  | [] => []
  | (key, v) :: ms => (key, v.sorted) :: sortedMembers ms

end

end Json

end Formulary
