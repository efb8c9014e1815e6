import Mathlib.Data.List.Basic

/-! JSON values over any numbers, and their compact text: a string is quoted and escaped,
so that no value's text is the string that it is the value of. -/
namespace Json

inductive Value (ν : Type) where
  | null
  | bool (b : Bool)
  | number (n : ν)
  | string (s : String)
  | array (items : List (Value ν))
  | object (fields : List (String × Value ν))

/-- `\u00` and two hexadecimal digits. -/
def escapeControl (c : Char) : List Char :=
  ['\\', 'u', '0', '0', Nat.digitChar (c.toNat / 16), Nat.digitChar (c.toNat % 16)]

def escape (c : Char) : List Char :=
  if c = '\x22' then ['\\', '\x22']
  else if c = '\\' then ['\\', '\\']
  else if c.toNat = 8 then ['\\', 'b']
  else if c.toNat = 9 then ['\\', 't']
  else if c.toNat = 10 then ['\\', 'n']
  else if c.toNat = 12 then ['\\', 'f']
  else if c.toNat = 13 then ['\\', 'r']
  else if c.toNat < 32 then escapeControl c
  else [c]

def quoted (s : String) : String := String.ofList (['\x22'] ++ s.toList.flatMap escape ++ ['\x22'])

theorem escape_ne_nil (c : Char) : escape c ≠ [] := by
  unfold escape escapeControl
  repeat' split
  all_goals exact List.cons_ne_nil _ _

theorem length_le_flatMap_escape (cs : List Char) : cs.length ≤ (cs.flatMap escape).length := by
  induction cs with
  | nil => exact Nat.le_refl 0
  | cons c rest ih =>
      have some := List.length_pos_of_ne_nil (escape_ne_nil c)
      rw [List.flatMap_cons, List.length_append, List.length_cons]
      omega

theorem length_lt_quoted (s : String) : s.toList.length < (quoted s).toList.length := by
  have escaped := length_le_flatMap_escape s.toList
  simp only [quoted, String.toList_ofList, List.length_append, List.length_cons, List.length_nil]
  omega

theorem quoted_ne (s : String) : quoted s ≠ s := by
  intro same
  have longer := length_lt_quoted s
  rw [same] at longer
  exact Nat.lt_irrefl _ longer

section Text
variable {ν : Type} (digits : ν → String)

mutual

/-- The text without white space; `digits` is how a number is written. -/
def text : Value ν → String
  | .null => "null"
  | .bool true => "true"
  | .bool false => "false"
  | .number n => digits n
  | .string s => quoted s
  | .array items => "[" ++ String.intercalate "," (itemTexts items) ++ "]"
  | .object fields => "\x7b" ++ String.intercalate "," (fieldTexts fields) ++ "\x7d"

def itemTexts : List (Value ν) → List String
  | [] => []
  | item :: rest => text item :: itemTexts rest

def fieldTexts : List (String × Value ν) → List String
  | [] => []
  | (name, value) :: rest => (quoted name ++ ":" ++ text value) :: fieldTexts rest

end

/-- No value is the string of its own text. -/
theorem string_text_ne (value : Value ν) : .string (text digits value) ≠ value := by
  intro same
  cases value with
  | string s =>
      rw [text] at same
      exact quoted_ne s (Value.string.inj same)
  | _ => cases same

end Text

/-- A field that is left out where there is no value. -/
def optional (name : String) (value : Option (Value ν)) : List (String × Value ν) :=
  value.toList.map (fun value => (name, value))

def field (name : String) : Value ν → Option (Value ν)
  | .object fields => fields.lookup name
  | _ => none

section Fields
variable {ν : Type} {name label : String} {value : Option (Value ν)} {rest : List (String × Value ν)}

theorem lookup_optional_self :
    (optional name value ++ rest).lookup name = value.orElse (fun _ => rest.lookup name) := by
  cases value <;> simp [optional]

theorem lookup_optional_ne (other : (name == label) = false) :
    (optional label value ++ rest).lookup name = rest.lookup name := by
  cases value <;> simp [optional, List.lookup_cons, other]

theorem lookup_optional_other (other : (name == label) = false) :
    (optional label value).lookup name = none := by
  cases value <;> simp [optional, List.lookup_cons, other]

end Fields

end Json
