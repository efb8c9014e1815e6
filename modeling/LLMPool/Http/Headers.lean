import Mathlib.Data.List.Induction
import Mathlib.Data.List.Nodup

/-! Header names and values, and lists of headers in which a name may be repeated: one header
more for a name, or one instead of all that it has. -/
namespace Http

section Names

def lowercase (text : String) : String := String.ofList (text.toList.map Char.toLower)

def eqIgnoreAsciiCase (a b : String) : Bool := lowercase a = lowercase b

def isToken (c : Char) : Bool := c.isAlphanum || "!#$%&'*+-.^_`|~".toList.contains c

theorem isUpper_iff {c : Char} : c.isUpper = true ↔ 65 ≤ c.toNat ∧ c.toNat ≤ 90 := decide_eq_true_iff

theorem isLower_iff {c : Char} : c.isLower = true ↔ 97 ≤ c.toNat ∧ c.toNat ≤ 122 :=
  (Bool.and_eq_true_iff).trans (and_congr decide_eq_true_iff decide_eq_true_iff)

theorem toLower_of_not_upper {c : Char} (lower : c.isUpper = false) : c.toLower = c :=
  dif_neg (of_decide_eq_false lower)

theorem toNat_toLower {c : Char} (upper : c.isUpper = true) : c.toLower.toNat = c.toNat + 32 := by
  obtain ⟨low, high⟩ := isUpper_iff.mp upper
  refine (congrArg Char.toNat (dif_pos (of_decide_eq_true upper))).trans ?_
  change (c.val + 32).toNat = c.val.toNat + 32
  have small : c.val.toNat ≤ 90 := high
  rw [UInt32.toNat_add]
  exact Nat.mod_eq_of_lt (show c.val.toNat + 32 < 2 ^ 32 by omega)

theorem isUpper_toLower (c : Char) : c.toLower.isUpper = false := by
  by_cases upper : c.isUpper = true
  · have moved := toNat_toLower upper
    have low := (isUpper_iff.mp upper).1
    refine Bool.eq_false_iff.mpr (fun still => ?_)
    have high := (isUpper_iff.mp still).2
    omega
  · rw [toLower_of_not_upper (by simpa using upper)]
    simpa using upper

theorem isToken_toLower {c : Char} (token : isToken c = true) : isToken c.toLower = true := by
  by_cases upper : c.isUpper = true
  · have moved := toNat_toLower upper
    obtain ⟨low, high⟩ := isUpper_iff.mp upper
    have letter : c.toLower.isLower = true := isLower_iff.mpr (by omega)
    have alphabetic : c.toLower.isAlpha = true := Bool.or_eq_true_iff.mpr (.inr letter)
    exact Bool.or_eq_true_iff.mpr (.inl (Bool.or_eq_true_iff.mpr (.inl alphabetic)))
  · rw [toLower_of_not_upper (by simpa using upper)]
    exact token

/-- A name, kept in lower case. -/
structure HeaderName where
  text : String
  nonempty : text ≠ ""
  tokens : text.toList.all isToken = true
  lower : text.toList.all (fun c => !c.isUpper) = true

namespace HeaderName

@[ext] theorem ext {a b : HeaderName} (same : a.text = b.text) : a = b := by
  cases a
  cases b
  cases same
  rfl

instance : DecidableEq HeaderName := fun _ _ => decidable_of_iff _ HeaderName.ext_iff.symm

/-- A name in any letter case, where it is one. -/
def fromText (text : String) : Option HeaderName :=
  if valid : text ≠ "" ∧ text.toList.all isToken = true then
    some {
      text := lowercase text
      nonempty := by
        intro empty
        have characters := congrArg String.toList empty
        simp only [lowercase, String.toList_ofList, String.toList_empty, List.map_eq_nil_iff] at characters
        exact valid.1 (String.toList_inj.mp characters)
      tokens := by
        refine List.all_eq_true.mpr (fun c member => ?_)
        simp only [lowercase, String.toList_ofList, List.mem_map] at member
        obtain ⟨d, inside, rfl⟩ := member
        exact isToken_toLower (List.all_eq_true.mp valid.2 d inside)
      lower := by
        refine List.all_eq_true.mpr (fun c member => ?_)
        simp only [lowercase, String.toList_ofList, List.mem_map] at member
        obtain ⟨d, _, rfl⟩ := member
        rw [isUpper_toLower, Bool.not_false] }
  else none

theorem lowercase_text (name : HeaderName) : lowercase name.text = name.text := by
  refine String.toList_inj.mp ?_
  rw [lowercase, String.toList_ofList]
  have lower : ∀ c ∈ name.text.toList, c.isUpper = false := by
    simpa only [List.all_eq_true, Bool.not_eq_true'] using name.lower
  refine (List.map_congr_left (fun c member => toLower_of_not_upper (lower c member))).trans ?_
  exact List.map_id _

@[simp] theorem fromText_text (name : HeaderName) : fromText name.text = some name := by
  rw [fromText, dif_pos ⟨name.nonempty, name.tokens⟩]
  exact congrArg some (HeaderName.ext name.lowercase_text)

end HeaderName

end Names

section Values

/-- A byte that a value may have; those from 128 on are opaque. -/
def isValueByte (b : UInt8) : Bool := 32 ≤ b && b ≠ 127 || b = 9

/-- A byte of a value that is text: a visible character of ASCII, a space or a tab. -/
def isTextByte (b : UInt8) : Bool := 32 ≤ b && b < 127 || b = 9

structure HeaderValue where
  bytes : List UInt8
  valid : bytes.all isValueByte = true
  deriving DecidableEq

namespace HeaderValue

def fromBytes (bytes : List UInt8) : Option HeaderValue :=
  if valid : bytes.all isValueByte = true then some ⟨bytes, valid⟩ else none

@[simp] theorem fromBytes_bytes (value : HeaderValue) : fromBytes value.bytes = some value :=
  dif_pos value.valid

theorem bytes_of_fromBytes {value : HeaderValue} {bytes : List UInt8} (read : fromBytes bytes = some value) :
    value.bytes = bytes := by
  rw [fromBytes] at read
  split at read
  · cases read
    rfl
  · cases read

/-- A value as text, where it is that. -/
def toText (value : HeaderValue) : Option (List UInt8) :=
  if value.bytes.all isTextByte = true then some value.bytes else none

theorem eq_bytes_of_toText {value : HeaderValue} {text : List UInt8} (read : value.toText = some text) :
    text = value.bytes := by
  rw [toText] at read
  split at read
  · cases read
    rfl
  · cases read

end HeaderValue

end Values

abbrev Header := HeaderName × HeaderValue

section Lists
variable {ν V : Type} [DecidableEq ν] {name other : ν} {value : V} {headers : List (ν × V)}

/-- The headers of a name, in order. -/
def named (name : ν) (headers : List (ν × V)) : List (ν × V) := headers.filter (fun header => header.1 = name)

/-- A header instead of those that its name has, where the first of them is, or at the end. -/
def insertHeader (name : ν) (value : V) : List (ν × V) → List (ν × V)
  | [] => [(name, value)]
  | header :: rest =>
      if header.1 = name then (name, value) :: rest.filter (fun header => header.1 ≠ name)
      else header :: insertHeader name value rest

def insertHeaders (headers : List (ν × V)) : List (ν × V) :=
  headers.foldl (fun before header => insertHeader header.1 header.2 before) []

theorem named_insertHeader_self : named name (insertHeader name value headers) = [(name, value)] := by
  induction headers with
  | nil => simp [insertHeader, named]
  | cons header rest ih =>
      rw [insertHeader]
      split
      · rw [named, List.filter_cons_of_pos (by simp), List.filter_filter]
        refine congrArg (List.cons _) (List.filter_eq_nil_iff.mpr (fun other _ => ?_))
        simp
      · rename_i apart
        rw [named, List.filter_cons_of_neg (by simpa using apart)]
        exact ih

theorem named_insertHeader_ne (apart : other ≠ name) :
    named other (insertHeader name value headers) = named other headers := by
  have removed : ∀ rest : List (ν × V),
      named other (rest.filter (fun header => header.1 ≠ name)) = named other rest := by
    intro rest
    rw [named, named, List.filter_filter]
    refine List.filter_congr (fun header _ => ?_)
    by_cases same : header.1 = other
    · simp [same, apart]
    · simp [same]
  induction headers with
  | nil => simp [insertHeader, named, apart.symm]
  | cons header rest ih =>
      rw [insertHeader]
      split
      · rename_i same
        rw [named, named, List.filter_cons_of_neg (by simpa using apart.symm),
          List.filter_cons_of_neg (by simpa [same] using apart.symm)]
        exact removed rest
      · rw [named, named, List.filter_cons, List.filter_cons]
        split
        · exact congrArg (List.cons header) ih
        · exact ih

/-- Of the headers of each name, the last one is left. -/
theorem named_insertHeaders : named name (insertHeaders headers) = (named name headers).getLast?.toList := by
  induction headers using List.reverseRecOn with
  | nil => rfl
  | append_singleton before header ih =>
      rw [insertHeaders, List.foldl_append]
      change named name (insertHeader header.1 header.2 (insertHeaders before)) = _
      have whole : named name (before ++ [header]) = named name before ++ named name [header] :=
        List.filter_append ..
      by_cases same : header.1 = name
      · have last : named name [header] = [header] := List.filter_cons_of_pos (by simpa using same)
        subst same
        rw [named_insertHeader_self, whole, last, List.getLast?_concat]
        rfl
      · have none : named name [header] = [] := List.filter_cons_of_neg (by simpa using same)
        rw [named_insertHeader_ne (Ne.symm same), ih, whole, none, List.append_nil]

theorem insertHeader_new (new : ∀ header ∈ headers, header.1 ≠ name) :
    insertHeader name value headers = headers ++ [(name, value)] := by
  induction headers with
  | nil => rfl
  | cons header rest ih =>
      rw [insertHeader, if_neg (new header List.mem_cons_self),
        ih (fun other member => new other (List.mem_cons_of_mem _ member))]
      rfl

theorem insertHeaders_of_nodup (distinct : (headers.map Prod.fst).Nodup) : insertHeaders headers = headers := by
  induction headers using List.reverseRecOn with
  | nil => rfl
  | append_singleton before header ih =>
      rw [List.map_append, List.nodup_append] at distinct
      obtain ⟨distinct, _, apart⟩ := distinct
      have new : ∀ other ∈ before, other.1 ≠ header.1 := fun other member =>
        apart other.1 (List.mem_map_of_mem member) header.1 (by simp)
      rw [insertHeaders, List.foldl_append]
      change insertHeader header.1 header.2 (insertHeaders before) = _
      rw [ih distinct, insertHeader_new new]

/-- Inserting headers one by one keeps those of every name if and only if no name is repeated. -/
theorem named_insertHeaders_iff :
    (∀ name, named name (insertHeaders headers) = named name headers) ↔ (headers.map Prod.fst).Nodup := by
  constructor
  · intro kept
    rw [List.nodup_iff_count_le_one]
    intro name
    have counted : (headers.map Prod.fst).count name = (named name headers).length := by
      rw [List.count, List.countP_map, List.countP_eq_length_filter, named]
      rfl
    rw [counted, ← kept name, named_insertHeaders]
    cases (named name headers).getLast? with
    | none => exact Nat.zero_le _
    | some _ => exact Nat.le_refl _
  · intro distinct name
    rw [insertHeaders_of_nodup distinct]

end Lists

end Http
