import Kufi.Shared.Text

set_option autoImplicit false

/-!
# Spellings of a phone number

The users service stores a phone as a string. A number is spelled with a leading
zero, with 84 or with +84, and with any separators.
-/

namespace Kufi.Auth

open Shared

def digitsOf (raw : String) : List Char := raw.toList.filter Char.isDigit

def normalizePhoneForStore (raw : String) : String :=
  let trimmed := Text.trim raw
  if trimmed = "" then ""
  else
    let hasPlus := ['+'].isPrefixOf trimmed.toList
    let digits := digitsOf trimmed
    if digits = [] then ""
    else if hasPlus && ['8', '4'].isPrefixOf digits then String.ofList ('+' :: digits)
    else if ['8', '4'].isPrefixOf digits && digits.length == 11 then
      String.ofList ('0' :: digits.drop 2)
    else String.ofList digits

def normalizePhone (raw : String) : String :=
  let trimmed := Text.trim raw
  if trimmed = "" then ""
  else
    let hasPlus := ['+'].isPrefixOf trimmed.toList
    let digits := digitsOf trimmed
    if digits = [] then ""
    else if hasPlus && ['8', '4'].isPrefixOf digits then String.ofList ('+' :: digits)
    else String.ofList digits

-- Legacy rows may keep +84, 84, or 0-prefixed formats.
def phoneVariants (normalized : String) : List String :=
  let text := normalized.toList
  [normalized] ++
    (if ['0'].isPrefixOf text && 10 ≤ text.length then
      [String.ofList ('8' :: '4' :: text.drop 1), String.ofList ('+' :: '8' :: '4' :: text.drop 1)]
    else []) ++
    (if ['8', '4'].isPrefixOf text && 10 ≤ text.length then
      [String.ofList ('0' :: text.drop 2), String.ofList ('+' :: text)]
    else []) ++
    (if ['+', '8', '4'].isPrefixOf text && 11 ≤ text.length then
      [String.ofList ('0' :: text.drop 3), String.ofList (text.drop 1)]
    else [])

/-- The test `/^(0\d{9,10}|84\d{8,10}|\+84\d{8,10})$/`. -/
def readyPhone (phone : String) : Bool :=
  match phone.toList with
  | '0' :: number => 9 ≤ number.length && number.length ≤ 10 && number.all Char.isDigit
  | '8' :: '4' :: number => 8 ≤ number.length && number.length ≤ 10 && number.all Char.isDigit
  | '+' :: '8' :: '4' :: number =>
    8 ≤ number.length && number.length ≤ 10 && number.all Char.isDigit
  | _ => false

/-! ## The number that is meant -/

/-- What follows the 0 or the 84. -/
def subscriber (phone : String) : Option (List Char) :=
  match digitsOf phone with
  | '0' :: number => some number
  | '8' :: '4' :: number => some number
  | _ => none

/-- The spellings without separators. -/
def spellings (number : List Char) : List String :=
  [String.ofList ('0' :: number), String.ofList ('8' :: '4' :: number),
    String.ofList ('+' :: '8' :: '4' :: number)]

/-- Written without separators and long enough for all spellings to be looked up. -/
def Plain (phone : String) : Prop :=
  ∃ number, number.all Char.isDigit = true ∧ 9 ≤ number.length ∧ phone ∈ spellings number

theorem digitsOf_trim (raw : String) : digitsOf (Text.trim raw) = digitsOf raw := by
  have apart (c : Char) (digit : c.isDigit = true) : Text.isSpace c = false := by
    have range : 48 ≤ c.toNat ∧ c.toNat ≤ 57 := by
      simpa [Char.isDigit, UInt32.le_iff_toNat_le] using digit
    simp only [Text.isSpace, List.mem_cons, List.not_mem_nil, or_false, Bool.or_eq_false_iff,
      decide_eq_false_iff_not, Bool.and_eq_false_iff]
    omega
  have dropped (text : List Char) :
      (text.dropWhile Text.isSpace).filter Char.isDigit = text.filter Char.isDigit := by
    induction text with
    | nil => rfl
    | cons c rest ih =>
      rw [List.dropWhile_cons]
      split
      next space =>
        have letter : c.isDigit = false := by
          by_contra digit
          rw [apart c (eq_true_of_ne_false digit)] at space
          cases space
        rw [ih, List.filter_cons_of_neg (by simp [letter])]
      next => rfl
  simp only [digitsOf, Text.trim, String.toList_ofList, List.filter_reverse, dropped,
    List.reverse_reverse]

theorem digitsOf_ofList (text : List Char) :
    digitsOf (String.ofList text) = text.filter Char.isDigit := by
  simp [digitsOf]

/-- A number is looked up in the form in which it is spelled. -/
theorem normalizePhone_mem {raw : String} {number : List Char}
    (spelled : subscriber raw = some number) : normalizePhone raw ∈ spellings number := by
  unfold subscriber at spelled
  have trimmed := digitsOf_trim raw
  have nonempty (digits : digitsOf raw ≠ []) : Text.trim raw ≠ "" := by
    intro empty
    rw [empty] at trimmed
    exact digits trimmed.symm
  split at spelled
  next rest digits =>
    obtain rfl := Option.some.inj spelled
    simp [normalizePhone, nonempty, trimmed, digits, spellings]
  next rest digits =>
    obtain rfl := Option.some.inj spelled
    simp only [normalizePhone, trimmed, digits, spellings]
    split_ifs <;> simp_all
  next => cases spelled

theorem phoneVariants_subset {normalized : String} {number : List Char}
    (plain : normalized ∈ spellings number) (phone : String)
    (member : phone ∈ phoneVariants normalized) : phone ∈ spellings number := by
  simp only [spellings, List.mem_cons, List.not_mem_nil, or_false] at plain ⊢
  rcases plain with rfl | rfl | rfl <;>
    simp [phoneVariants, -String.ofList_cons] at member <;> tauto

theorem phoneVariants_complete {normalized : String} {number : List Char}
    (plain : normalized ∈ spellings number) (long : 9 ≤ number.length) {phone : String}
    (member : phone ∈ spellings number) : phone ∈ phoneVariants normalized := by
  simp only [spellings, List.mem_cons, List.not_mem_nil, or_false] at plain member
  have enough : 8 ≤ number.length := by omega
  rcases plain with rfl | rfl | rfl <;>
    simp [phoneVariants, long, enough, -String.ofList_cons] <;> tauto

theorem subscriber_of_mem {phone : String} {number : List Char}
    (digits : number.all Char.isDigit = true) (member : phone ∈ spellings number) :
    subscriber phone = some number := by
  have kept : number.filter Char.isDigit = number := by
    rw [List.filter_eq_self]
    simpa using digits
  simp only [spellings, List.mem_cons, List.not_mem_nil, or_false] at member
  rcases member with rfl | rfl | rfl <;>
    simp [subscriber, digitsOf_ofList, kept, -String.ofList_cons]

theorem digits_of_subscriber {phone : String} {number : List Char}
    (spelled : subscriber phone = some number) : number.all Char.isDigit = true := by
  have digits : (digitsOf phone).all Char.isDigit = true := by
    simp [digitsOf]
  unfold subscriber at spelled
  split at spelled
  next rest same =>
    cases spelled
    simp_all
  next rest same =>
    cases spelled
    simp_all
  next => cases spelled

theorem Plain.mem {phone : String} {number : List Char} (plain : Plain phone)
    (spelled : subscriber phone = some number) :
    phone ∈ spellings number ∧ 9 ≤ number.length := by
  obtain ⟨other, digits, long, member⟩ := plain
  obtain rfl := Option.some.inj ((subscriber_of_mem digits member).symm.trans spelled)
  exact ⟨member, long⟩

/-- What `updateProfile` accepts is spelled without separators. -/
theorem readyPhone_spelling {phone : String} (ready : readyPhone phone = true) :
    ∃ number, number.all Char.isDigit = true ∧ phone ∈ spellings number := by
  unfold readyPhone at ready
  have whole : phone = String.ofList phone.toList := by simp
  split at ready
  next number text =>
    simp only [Bool.and_eq_true] at ready
    exact ⟨number, ready.2, by rw [whole, text]; simp [spellings]⟩
  next number text =>
    simp only [Bool.and_eq_true] at ready
    exact ⟨number, ready.2, by rw [whole, text]; simp [spellings]⟩
  next number text =>
    simp only [Bool.and_eq_true] at ready
    exact ⟨number, ready.2, by rw [whole, text]; simp [spellings]⟩
  next => cases ready

end Kufi.Auth
