import RegistryOperator.Decimal.Shortest

/-! JSON documents with ordered members. Whole numbers and doubles are told apart, as the writers of
the documents do: `1` and `1.0` are different numbers. -/

namespace RegistryOperator

/-- A number: a whole number, or the bits of a finite double. -/
inductive Number
  | whole (n : Int)
  | double (bits : UInt64)
deriving DecidableEq, Repr

/-- A JSON document. The members of an object keep their order. -/
inductive Json
  | null
  | bool (b : Bool)
  | num (n : Number)
  | str (s : String)
  | arr (items : List Json)
  | obj (members : List (String × Json))
deriving Repr, Inhabited

namespace Number

/-- Doubles are compared by value, so the two zeros are equal. -/
def same : Number → Number → Bool
  | .whole a, .whole b => a = b
  | .double a, .double b => a = b || (a <<< 1 = 0 && b <<< 1 = 0)
  | _, _ => false

/-- Doubles are positional from `1e-5` up to `1e16`. -/
def layout : Decimal.Layout := ⟨-5, 15⟩

def text : Number → String
  | .whole n => toString n
  | .double bits => layout.text bits

/-- The double nearest to a number below `2 ^ 64`. -/
def toDouble : Number → Float
  | .whole n => if n < 0 then -n.natAbs.toUInt64.toFloat else n.natAbs.toUInt64.toFloat
  | .double bits => .ofBits bits

end Number

namespace Json

/-- The member called `key` of a list of members. -/
def lookup (key : String) : List (String × Json) → Option Json
  | [] => none
  | (k, v) :: rest => if k = key then some v else lookup key rest

/-- The member called `key`, if the document is an object that has it. -/
def get? (key : String) : Json → Option Json
  | .obj members => lookup key members
  | _ => none

/-- Replaces the first member called `key` where it stands, or adds it at the end. -/
def put (key : String) (value : Json) : List (String × Json) → List (String × Json)
  | [] => [(key, value)]
  | (k, v) :: rest => if k = key then (k, value) :: rest else (k, v) :: put key value rest

def int (n : Int) : Json := .num (.whole n)

/-- An object of those members that are present. -/
def record (members : List (String × Option Json)) : Json :=
  .obj (members.filterMap fun (k, v) => v.map (k, ·))

mutual

/-- Whether two documents are the same tree. -/
def eqb : Json → Json → Bool
  | .null, .null => true
  | .bool a, .bool b => a = b
  | .num a, .num b => a = b
  | .str a, .str b => a = b
  | .arr as, .arr bs => eqbItems as bs
  | .obj as, .obj bs => eqbMembers as bs
  | _, _ => false

/-- Whether two arrays hold the same trees. -/
def eqbItems : List Json → List Json → Bool
  | [], [] => true
  | a :: as, b :: bs => eqb a b && eqbItems as bs
  | _, _ => false

/-- Whether two objects hold the same members in the same order. -/
def eqbMembers : List (String × Json) → List (String × Json) → Bool
  | [], [] => true
  | (k, a) :: as, (l, b) :: bs => k = l && eqb a b && eqbMembers as bs
  | _, _ => false

end

mutual

theorem eqb_iff : ∀ {a b : Json}, eqb a b = true ↔ a = b
  | .null, b => by cases b <;> simp [eqb]
  | .bool _, b => by cases b <;> simp [eqb]
  | .num _, b => by cases b <;> simp [eqb]
  | .str _, b => by cases b <;> simp [eqb]
  | .arr as, b => by cases b <;> simp [eqb, @eqbItems_iff as]
  | .obj as, b => by cases b <;> simp [eqb, @eqbMembers_iff as]

theorem eqbItems_iff : ∀ {as bs : List Json}, eqbItems as bs = true ↔ as = bs
  | [], bs => by cases bs <;> simp [eqbItems]
  | a :: as, bs => by cases bs <;> simp [eqbItems, @eqb_iff a, @eqbItems_iff as]

theorem eqbMembers_iff : ∀ {as bs : List (String × Json)}, eqbMembers as bs = true ↔ as = bs
  | [], bs => by cases bs <;> simp [eqbMembers]
  | (k, a) :: as, bs => by
    cases bs <;> simp [eqbMembers, @eqb_iff a, @eqbMembers_iff as, and_assoc]
    rename_i head _
    obtain ⟨l, b⟩ := head
    simp [and_assoc]

end

instance : DecidableEq Json := fun _ _ => decidable_of_iff _ eqb_iff

mutual

/-- Equality of documents. The order of an object's members does not matter. -/
def same : Json → Json → Bool
  | .null, .null => true
  | .bool a, .bool b => a = b
  | .num a, .num b => a.same b
  | .str a, .str b => a = b
  | .arr as, .arr bs => sameItems as bs
  | .obj as, .obj bs => as.length = bs.length && sameMembers as bs
  | _, _ => false

def sameItems : List Json → List Json → Bool
  | [], [] => true
  | a :: as, b :: bs => a.same b && sameItems as bs
  | _, _ => false

/-- Whether each of the first members is equal to the second's of the same name. -/
def sameMembers : List (String × Json) → List (String × Json) → Bool
  | [], _ => true
  | (k, v) :: rest, bs =>
    (match lookup k bs with
      | some w => v.same w
      | none => false) && sameMembers rest bs

end

end Json
end RegistryOperator
