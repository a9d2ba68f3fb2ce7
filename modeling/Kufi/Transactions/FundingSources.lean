import Kufi.Transactions.Service

set_option autoImplicit false

/-!
# Funding sources

A source is registered with an account reference of which only a mask is kept.
The mask is what the transactions over the source have as their account number.
-/

namespace Kufi.Transactions

open Shared Shared.Text

structure CreateFundingSourceRequest where
  userId : String
  provider : String
  accountRef : String
  providerToken : String
  displayName : String

/-- The request with its texts trimmed and checked. -/
structure NormalizedFundingSource where
  userId : String
  provider : String
  accountRef : String
  providerToken : String
  displayName : String

def validateCreateFundingSource (env : Env) (request : CreateFundingSourceRequest) :
    Except ServiceError NormalizedFundingSource :=
  let userId := trim request.userId
  let provider := env.toUpperCase (trim request.provider)
  let accountRef := trim request.accountRef
  if userId = "" then .error (.badRequest "userId is required")
  else if provider = "" then .error (.badRequest "provider is required")
  else if 32 < utf16Length provider then .error (.badRequest "provider is invalid")
  else if accountRef = "" then .error (.badRequest "accountRef is required")
  else if 128 < utf16Length accountRef then .error (.badRequest "accountRef is invalid")
  else .ok
    { userId, provider, accountRef
      providerToken := trim request.providerToken
      displayName := trim request.displayName }

/-- `text.replace(/\s+/g, '')`. -/
def withoutSpaces (text : String) : String :=
  String.ofList (text.toList.filter fun c => !isSpace c)

/-- `text.slice(-n)`, as it is encoded in UTF-8. -/
def sliceEnd (n : Nat) (text : String) : String :=
  String.ofList (takeUnits n text.toList.reverse).reverse

def maskAccountRef (accountRef : String) : String :=
  let compact := withoutSpaces accountRef
  if utf16Length compact ≤ 4 then slice 32 ("***" ++ compact)
  else "****" ++ sliceEnd 4 compact

-- `accountRefHashes` is the column of the hashes, by the id of the source. A source that another
-- request has stored in the meantime is found once the unique index has refused this one.
def createFundingSource (env : Env) (sha256 : String → String) (id : Uuid)
    (request : CreateFundingSourceRequest) (s : Tables) (accountRefHashes : List (Uuid × String)) :
    Except ServiceError (FundingSource × Tables × List (Uuid × String)) := do
  let normalized ← validateCreateFundingSource env request
  let userId ← parseUuid normalized.userId
  let accountRefHash := sha256 (normalized.provider ++ ":" ++ normalized.accountRef)
  match s.fundingSources.find? fun source =>
      source.userId == userId && source.provider == normalized.provider &&
        accountRefHashes.contains (source.id, accountRefHash) with
  | some existing => .ok (existing, s, accountRefHashes)
  | none =>
    let source : FundingSource :=
      { id, userId
        provider := normalized.provider
        accountRefMasked := maskAccountRef normalized.accountRef
        status := .active }
    if fitsVarchar 32 source.provider && fitsVarchar 32 source.accountRefMasked &&
        fitsVarchar 128 accountRefHash && fitsVarchar 256 normalized.providerToken &&
        fitsVarchar 128 normalized.displayName &&
        s.fundingSources.all (fun other => other.id ≠ id) then
      .ok (source, { s with fundingSources := s.fundingSources ++ [source] },
        accountRefHashes ++ [(id, accountRefHash)])
    else .error .queryFailed

-- The newest first.
def listFundingSources (userId : String) (s : Tables) : Except ServiceError (List FundingSource) :=
  if trim userId = "" then .error (.badRequest "userId is required")
  else (parseUuid (trim userId)).map fun user =>
    (s.fundingSources.filter fun source => source.userId == user).reverse

/-! ## Masks -/

/-- The text is the mask of some account reference. -/
def Masked (text : String) : Prop :=
  ∃ accountRef, text = maskAccountRef accountRef

theorem length_takeUnits (n : Nat) (text : List Char) :
    (takeUnits n text).length ≤ n ∧ (takeUnits n text).length ≤ text.length := by
  fun_induction takeUnits n text with
  | case1 | case2 => simp
  | case3 c rest => simp
  | case4 n c rest ih ih' =>
    simp only [List.length_cons]
    split_ifs <;> omega

theorem length_le_utf16Length (text : String) : text.toList.length ≤ utf16Length text := by
  unfold utf16Length
  induction text.toList with
  | nil => rfl
  | cons c rest ih =>
    simp only [List.length_cons, List.map_cons, List.sum_cons]
    split_ifs <;> omega

/-- A mask is stars before at most four characters. -/
theorem maskAccountRef_shape (accountRef : String) : ∃ stars tail,
    (maskAccountRef accountRef).toList = '*' :: stars ++ tail ∧ (∀ c ∈ stars, c = '*') ∧
      tail.length ≤ 4 := by
  unfold maskAccountRef
  dsimp only
  split_ifs with short
  · refine ⟨['*', '*'], takeUnits 29 (withoutSpaces accountRef).toList, ?_, by simp, ?_⟩
    · simp [slice, takeUnits]
    · exact (length_takeUnits 29 _).2.trans ((length_le_utf16Length _).trans short)
  · refine ⟨['*', '*', '*'], (takeUnits 4 (withoutSpaces accountRef).toList.reverse).reverse, ?_,
      by simp, ?_⟩
    · simp [sliceEnd]
    · rw [List.length_reverse]
      exact (length_takeUnits 4 _).1

theorem hexChar_mem (digit : Fin 16) : Uuid.hexChar digit ∈ "0123456789abcdef".toList := by
  revert digit
  decide

theorem mem_format {id : Uuid} {c : Char} (member : c ∈ id.format.toList) :
    c = '-' ∨ c ∈ "0123456789abcdef".toList := by
  have hex : ∀ c ∈ id.digits.map Uuid.hexChar, c ∈ "0123456789abcdef".toList := by
    intro c among
    obtain ⟨digit, _, rfl⟩ := List.mem_map.mp among
    exact hexChar_mem digit
  simp only [Uuid.format, String.toList_ofList, List.mem_append, List.mem_cons] at member
  rcases member with (((first | rfl | second) | rfl | third) | rfl | fourth) | rfl | last
  · exact .inr (hex c (List.mem_of_mem_take first))
  · exact .inl rfl
  · exact .inr (hex c (List.mem_of_mem_drop (List.mem_of_mem_take second)))
  · exact .inl rfl
  · exact .inr (hex c (List.mem_of_mem_drop (List.mem_of_mem_take third)))
  · exact .inl rfl
  · exact .inr (hex c (List.mem_of_mem_drop (List.mem_of_mem_take fourth)))
  · exact .inl rfl
  · exact .inr (hex c (List.mem_of_mem_drop last))

/-- An id has nothing to trim. -/
theorem trim_format (id : Uuid) : trim id.format = id.format := by
  have solid : ∀ c ∈ id.format.toList, isSpace c = false := by
    intro c member
    have hex : ∀ c ∈ '-' :: "0123456789abcdef".toList, (!isSpace c) = true :=
      List.all_eq_true.mp (by decide)
    simpa using hex c (List.mem_cons.mpr (mem_format member))
  have kept (text : List Char) (solid : ∀ c ∈ text, isSpace c = false) :
      text.dropWhile isSpace = text := by
    cases text with
    | nil => rfl
    | cons c rest => simp [solid c List.mem_cons_self]
  rw [trim, kept _ solid, kept _ fun c member => solid c (List.mem_reverse.mp member),
    List.reverse_reverse, String.ofList_toList]

theorem four_le_length_format (id : Uuid) : 4 ≤ id.format.toList.length := by
  simp only [Uuid.format, String.toList_ofList, List.length_append, List.length_cons]
  omega

/-- No mask is the id of a source, alone or after a colon. -/
theorem Masked.not_id {text : String} (masked : Masked text) (id : Uuid) :
    ¬ (':' :: id.format.toList) <:+ (':' :: text.toList) := by
  obtain ⟨accountRef, rfl⟩ := masked
  obtain ⟨stars, tail, shape, starred, short⟩ := maskAccountRef_shape accountRef
  rw [shape, List.suffix_cons_iff]
  rintro (whole | inside)
  · have star : '*' ∈ id.format.toList := by
      rw [(List.cons.inj whole).2]
      exact List.mem_cons_self
    rcases mem_format star with hyphen | hex
    · exact absurd hyphen (by decide)
    · exact absurd hex (by decide)
  · have long := four_le_length_format id
    obtain ⟨front, split⟩ : tail <:+ ':' :: id.format.toList :=
      List.suffix_of_suffix_length_le (List.suffix_append _ _) inside
        (by rw [List.length_cons]; omega)
    obtain ⟨before, joined⟩ := inside
    rw [← split, ← List.append_assoc] at joined
    have colon : ':' ∈ '*' :: stars := by
      rw [← List.append_cancel_right joined]
      cases front with
      | nil =>
        have lengths := congrArg List.length split
        simp only [List.nil_append, List.length_cons] at lengths
        omega
      | cons c rest =>
        obtain ⟨rfl, _⟩ := List.cons.inj split
        simp
    rcases List.mem_cons.mp colon with equal | among
    · exact absurd equal (by decide)
    · exact absurd (starred ':' among) (by decide)

/-! ## Registered sources -/

section

variable {env : Env} {sha256 : String → String} {id : Uuid} {s after : Tables}

/-- Registering adds at most one source, and its mask is that of an account reference. -/
theorem createFundingSource_effect {request : CreateFundingSourceRequest} {source : FundingSource}
    {accountRefHashes hashes : List (Uuid × String)}
    (done : createFundingSource env sha256 id request s accountRefHashes =
      .ok (source, after, hashes)) :
    after = s ∨ Masked source.accountRefMasked ∧
      after = { s with fundingSources := s.fundingSources ++ [source] } := by
  simp only [createFundingSource, bind_eq_ok] at done
  obtain ⟨normalized, _, user, _, rest⟩ := done
  split at rest
  next =>
    simp only [Except.ok.injEq, Prod.mk.injEq] at rest
    exact .inl rest.2.1.symm
  next =>
    split_ifs at rest
    simp only [Except.ok.injEq, Prod.mk.injEq] at rest
    obtain ⟨rfl, rfl, _⟩ := rest
    refine .inr ⟨?_, rfl⟩
    dsimp only
    exact ⟨normalized.accountRef, rfl⟩

theorem getActiveFundingSource_mem {userId fundingSourceId : String} {source : FundingSource}
    (found : getActiveFundingSource userId fundingSourceId s = .ok source) :
    source ∈ s.fundingSources := by
  simp only [getActiveFundingSource, bind_eq_ok] at found
  obtain ⟨_, _, _, _, rest⟩ := found
  split at rest
  next looked =>
    obtain rfl := Except.ok.inj rest
    exact List.mem_of_find?_eq_some looked
  next => cases rest

theorem listFundingSources_mem {userId : String} {sources : List FundingSource}
    {source : FundingSource} (listed : listFundingSources userId s = .ok sources)
    (member : source ∈ sources) : source ∈ s.fundingSources := by
  unfold listFundingSources at listed
  split_ifs at listed
  obtain ⟨user, _, rfl⟩ := map_eq_ok.mp listed
  exact List.mem_of_mem_filter (List.mem_reverse.mp member)

end

example : maskAccountRef "0011 2233 1234" = aliceSource.accountRefMasked := by decide +kernel

end Kufi.Transactions
