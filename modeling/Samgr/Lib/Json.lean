import Mathlib.Tactic.Basic

/-! JSON values, and readers that throw where a value has not the type they take it for. A reader
that looks at the type first cannot throw. -/
inductive Json where
  | null
  | boolean (value : Bool)
  | integer (value : Int)
  | float
  | string (value : String)
  | array (elements : List Json)
  -- the members in the order of their keys
  | object (members : List (String × Json))

namespace Json

inductive Error where
  | typeError
  | outOfRange
  deriving DecidableEq, Repr

abbrev Read : Type → Type := Except Error

/-- A value that is no object has no members to find. -/
def find (key : String) : Json → Option Json
  | object members => members.lookup key
  | _ => none

/-- The member under a key. -/
def member (key : String) : Json → Read Json
  | object members =>
      match members.lookup key with
      | none => .error .outOfRange
      | some value => .ok value
  | _ => .error .typeError

def isBoolean : Json → Bool
  | boolean _ => true
  | _ => false

def isNumberInteger : Json → Bool
  | integer _ => true
  | _ => false

def isString : Json → Bool
  | string _ => true
  | _ => false

def isArray : Json → Bool
  | array _ => true
  | _ => false

def isObject : Json → Bool
  | object _ => true
  | _ => false

def getBoolean : Json → Read Bool
  | boolean value => .ok value
  | _ => .error .typeError

def getInteger : Json → Read Int
  | integer value => .ok value
  | _ => .error .typeError

def getString : Json → Read String
  | string value => .ok value
  | _ => .error .typeError

/-- What an iteration over an array goes through. -/
def elements : Json → List Json
  | array elements => elements
  | _ => []

def members : Json → List (String × Json)
  | object members => members
  | _ => []

/-- The member under a key, read if it is there with the right type. -/
def readMember {α : Type} (key : String) (hasType : Json → Bool) (get : Json → Read α) (j : Json)
    (other : α) : Read α :=
  match j.find key with
  | none => .ok other
  | some _ => do
      let value ← j.member key
      if hasType value then get value else .ok other

theorem member_of_find {key : String} {j value : Json} (found : j.find key = some value) :
    j.member key = .ok value := by
  cases j with
  | object members =>
      simp only [find] at found
      simp only [member, found]
  | _ => cases found

theorem getString_of_isString {j : Json} (text : j.isString = true) :
    ∃ value, j = string value ∧ j.getString = .ok value := by
  cases j with
  | string value => exact ⟨value, rfl, rfl⟩
  | _ => cases text

theorem getString_of_not_isString {j : Json} (other : j.isString = false) :
    j.getString = .error .typeError := by
  cases j with
  | string value => cases other
  | _ => rfl

def toString? : Json → Option String
  | string value => some value
  | _ => none

def toBoolean? : Json → Option Bool
  | boolean value => some value
  | _ => none

def toArray? : Json → Option (List Json)
  | array elements => some elements
  | _ => none

def toMembers? : Json → Option (List (String × Json))
  | object members => some members
  | _ => none

/-- The member under a key as a value of one type, or another value. -/
def valueAt {α : Type} (as : Json → Option α) (key : String) (j : Json) (other : α) : α :=
  ((j.find key).bind as).getD other

/-- A reader that asks for the type reads every value as what it is. -/
theorem readMember_eq {α : Type} {key : String} {hasType : Json → Bool} {get : Json → Read α}
    {as : Json → Option α} {j : Json} {other : α}
    (reads : ∀ value, (if hasType value then get value else .ok other) =
      .ok ((as value).getD other)) :
    readMember key hasType get j other = .ok (j.valueAt as key other) := by
  rw [readMember, valueAt]
  cases found : j.find key with
  | none => rfl
  | some value =>
      simp only [member_of_find found]
      exact reads value

theorem readMember_string {key : String} {j : Json} {other : String} :
    readMember key isString getString j other = .ok (j.valueAt toString? key other) :=
  readMember_eq fun value => by cases value <;> rfl

theorem readMember_boolean {key : String} {j : Json} {other : Bool} :
    readMember key isBoolean getBoolean j other = .ok (j.valueAt toBoolean? key other) :=
  readMember_eq fun value => by cases value <;> rfl

theorem readMember_array {key : String} {j : Json} {other : List Json} :
    readMember key isArray (fun value => .ok value.elements) j other =
      .ok (j.valueAt toArray? key other) :=
  readMember_eq fun value => by cases value <;> rfl

theorem readMember_object {key : String} {j : Json} {other : List (String × Json)} :
    readMember key isObject (fun value => .ok value.members) j other =
      .ok (j.valueAt toMembers? key other) :=
  readMember_eq fun value => by cases value <;> rfl

@[simp] theorem ok_bind {α β : Type} (a : α) (next : α → Read β) : (Except.ok a >>= next) = next a := rfl

/-- The reader does not throw, and what it returns is good. -/
def Returns {α : Type} (read : Read α) (good : α → Prop) : Prop := ∃ a, read = .ok a ∧ good a

section Rules

variable {α β : Type} {read : Read α} {good : α → Prop}

theorem Returns.pure {a : α} (here : good a) : Returns (.ok a) good := ⟨a, rfl, here⟩

theorem Returns.bind {next : α → Read β} {last : β → Prop} (first : Returns read good)
    (rest : ∀ a, good a → Returns (next a) last) : Returns (read >>= next) last := by
  obtain ⟨a, same, here⟩ := first
  rw [same]
  exact rest a here

theorem Returns.mono {weaker : α → Prop} (first : Returns read good)
    (implies : ∀ a, good a → weaker a) : Returns read weaker := by
  obtain ⟨a, same, here⟩ := first
  exact ⟨a, same, implies a here⟩

/-- A loop whose body neither throws nor spoils what is good. -/
theorem Returns.foldlM {body : α → β → Read α} {items : List β}
    (keep : ∀ a item, good a → Returns (body a item) good) {a : α} (start : good a) :
    Returns (items.foldlM body a) good := by
  induction items generalizing a with
  | nil => exact ⟨a, rfl, start⟩
  | cons item items hypothesis =>
      rw [List.foldlM_cons]
      exact (keep a item start).bind fun next here => hypothesis here

end Rules

end Json
