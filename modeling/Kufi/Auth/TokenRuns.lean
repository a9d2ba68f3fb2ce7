import Kufi.Auth.TransferTokens
import Kufi.Shared.Interleaving

set_option autoImplicit false

/-!
# Runs with QR transfer tokens

Clients present any texts as tokens. A text with a valid signature has been
signed by the service, which may sign access tokens with the same secret.
-/

namespace Kufi.Auth

open Shared Shared.Ecma

/-! ## Tokens in a run -/

-- What a token was issued for; records only.
structure QrIssue where
  userId : String
  issuedAt : ℕ
  nonce : Bytes

structure TokenState where
  users : Table User
  issues : List QrIssue
  -- the texts whose signature has been handed out
  signed : List Str

inductive TokenAction where
  | issue (userId : Str) (now : ℕ) (nonce : Bytes)
  -- `jwt.signAsync` signs a header and a payload, with a dot between them
  | signAccessToken (header payload : Str)
  | writeUsers (users : Table User)
  | resolve (token : Str) (now : ℕ)

-- A recipient that a token was resolved to, and the number of tokens issued until then.
structure Resolution where
  recipient : QrRecipient
  now : ℕ
  issued : ℕ

section Runs

variable (env : QrEnv)

def issueStep (s : TokenState) (userId : Str) (now : ℕ) (nonce : Bytes) : TokenState :=
  match qrUser env s.users userId with
  | .ok user =>
    { s with
      issues := s.issues ++ [⟨env.idText user.id, now, nonce⟩]
      signed := s.signed ++ [payloadEncoded env (Str.of (env.idText user.id)) now nonce] }
  | .error _ => s

def TokenAction.step (s : TokenState) (known : List Resolution) :
    TokenAction → TokenState × List Resolution
  | .issue userId now nonce => (issueStep env s userId now nonce, known)
  | .signAccessToken header payload =>
    ({ s with signed := s.signed ++ [header ++ unit '.' :: payload] }, known)
  | .writeUsers users => ({ s with users }, known)
  | .resolve token now =>
    match resolveQrTransferToken env s.users now token with
    | .ok (some recipient) => (s, known ++ [⟨recipient, now, s.issues.length⟩])
    | _ => (s, known)

/-- Clients that ask for tokens and present any texts as tokens. -/
def tokenClients : Machine TokenState (List Resolution) TokenAction where
  step s known action := some (action.step env s known)

/-- A client presents a valid signature only of a text that has been signed. -/
def Unforged {I : Type} (world : World I TokenState (List Resolution)) (_ : I) :
    TokenAction → Prop
  | .resolve token _ => ∀ text,
    (trim token).splitOn (unit '.') = [text, signQrPayload env text] → text ∈ world.shared.signed
  | _ => True

/-- The recipient is one that a token was issued for, and the token has not expired. -/
def Resolution.Authentic (issues : List QrIssue) (resolution : Resolution) : Prop :=
  ∃ issue ∈ issues.take resolution.issued, issue.userId = resolution.recipient.userId ∧
    Unexpired (expiry env issue.issuedAt) resolution.now

-- Whatever has been signed is the payload of a token or has a dot in it.
structure SignedFor (s : TokenState) : Prop where
  sources : ∀ text ∈ s.signed, unit '.' ∈ text ∨ ∃ issue ∈ s.issues, ∃ id : Nat,
    issue.userId = env.idText id ∧
      text = payloadEncoded env (Str.of (env.idText id)) issue.issuedAt issue.nonce

end Runs

section Runs

variable {env : QrEnv}

theorem no_separator {A : Type} [DecidableEq A] (x : A) (xs : List A) :
    ∀ part ∈ xs.splitOn x, x ∉ part := by
  induction xs with
  | nil => simp [List.splitOn_nil]
  | cons y ys ih =>
    rw [List.splitOn_cons_eq_if_modifyHead]
    split
    next => simpa using ih
    next other =>
      cases parts : ys.splitOn x with
      | nil => exact absurd parts (List.splitOn_ne_nil _ _)
      | cons part rest =>
        rw [parts] at ih
        have different : ¬x = y := fun same => other (by simp [same])
        simpa [different] using ih

theorem issueStep_cases (s : TokenState) (userId : Str) (now : ℕ) (nonce : Bytes) :
    issueStep env s userId now nonce = s ∨ ∃ id : Nat, issueStep env s userId now nonce =
      { s with
        issues := s.issues ++ [⟨env.idText id, now, nonce⟩]
        signed := s.signed ++ [payloadEncoded env (Str.of (env.idText id)) now nonce] } := by
  unfold issueStep
  cases qrUser env s.users userId with
  | error error => exact .inl rfl
  | ok user => exact .inr ⟨user.id, rfl⟩

theorem Resolution.Authentic.more {issues : List QrIssue} {resolution : Resolution}
    (authentic : resolution.Authentic env issues) (known : resolution.issued ≤ issues.length)
    (new : List QrIssue) : resolution.Authentic env (issues ++ new) := by
  rw [Resolution.Authentic, List.take_append_of_le_length known]
  exact authentic

theorem TokenAction.issues_grow (s : TokenState) (known : List Resolution) (action : TokenAction) :
    ∃ new, (action.step env s known).1.issues = s.issues ++ new := by
  cases action with
  | issue userId now nonce =>
    rcases @issueStep_cases env s userId now nonce with same | ⟨id, issued⟩
    · exact ⟨[], by simp [TokenAction.step, same]⟩
    · exact ⟨[⟨env.idText id, now, nonce⟩], by simp [TokenAction.step, issued]⟩
  | signAccessToken header payload => exact ⟨[], by simp [TokenAction.step]⟩
  | writeUsers users => exact ⟨[], by simp [TokenAction.step]⟩
  | resolve token now =>
    refine ⟨[], ?_⟩
    simp only [TokenAction.step, List.append_nil]
    split <;> rfl

theorem SignedFor.step {s : TokenState} (sound : SignedFor env s) (action : TokenAction)
    (known : List Resolution) : SignedFor env (action.step env s known).1 := by
  cases action with
  | issue userId now nonce =>
    rcases @issueStep_cases env s userId now nonce with same | ⟨id, issued⟩
    · simpa [TokenAction.step, same] using sound
    · refine ⟨fun text listed => ?_⟩
      simp only [TokenAction.step, issued, List.mem_append, List.mem_singleton] at listed ⊢
      rcases listed with old | rfl
      · rcases sound.sources text old with dot | ⟨issue, held, origin⟩
        · exact .inl dot
        · exact .inr ⟨issue, .inl held, origin⟩
      · exact .inr ⟨_, .inr rfl, id, rfl, rfl⟩
  | signAccessToken header payload =>
    refine ⟨fun text listed => ?_⟩
    simp only [TokenAction.step, List.mem_append, List.mem_singleton] at listed
    rcases listed with old | rfl
    · exact sound.sources text old
    · exact .inl (by simp)
  | writeUsers users => exact ⟨sound.sources⟩
  | resolve token now =>
    simp only [TokenAction.step]
    split <;> exact sound

theorem resolveQrTransferToken_eq_some {users : Table User} {token : Str} {now : ℕ}
    {recipient : QrRecipient}
    (resolved : resolveQrTransferToken env users now token = .ok (some recipient)) :
    ∃ decoded user, verifyQrToken env now (trim token) = .ok (some decoded) ∧
      findQrUser env users decoded.userId = .ok (some user) ∧ recipient = .of env user := by
  unfold resolveQrTransferToken at resolved
  cases verified : verifyQrToken env now (trim token) with
  | error error => simp [verified, bind, Except.bind] at resolved
  | ok result =>
    cases result with
    | none => simp [verified, bind, Except.bind] at resolved
    | some decoded =>
      simp only [verified, bind, Except.bind] at resolved
      split_ifs at resolved
      · cases resolved
      · refine ⟨decoded, ?_⟩
        unfold activeRecipient at resolved
        cases found : findQrUser env users decoded.userId with
        | error error => simp [found, bind, Except.bind] at resolved
        | ok result =>
          cases result with
          | none => simp [found, bind, Except.bind] at resolved
          | some user =>
            simp only [found, bind, Except.bind] at resolved
            split_ifs at resolved
            · cases resolved
            · cases resolved
              exact ⟨user, rfl, rfl, rfl⟩

/-- A token whose signature was handed out is that of an issue. -/
theorem resolved_authentic {s : TokenState} (sound : SignedFor env s) {token : Str} {now : ℕ}
    (signed : ∀ text, (trim token).splitOn (unit '.') = [text, signQrPayload env text] →
      text ∈ s.signed) {recipient : QrRecipient}
    (resolved : resolveQrTransferToken env s.users now token = .ok (some recipient)) :
    (⟨recipient, now, s.issues.length⟩ : Resolution).Authentic env s.issues := by
  obtain ⟨decoded, user, verified, found, rfl⟩ := resolveQrTransferToken_eq_some resolved
  obtain ⟨text, payload, parts, parsed, read⟩ := verifyQrToken_eq_some verified
  have plain : unit '.' ∉ text := no_separator (unit '.') (trim token) text (by simp [parts])
  rcases sound.sources text (signed text parts) with dot | ⟨issue, listed, id, names, rfl⟩
  · exact absurd dot plain
  · have ascii : Ascii (Str.of (env.idText id)) := fun u held => (idText_plain id held).1
    have solid : ∀ u ∈ Str.of (env.idText id), isBlank u = false :=
      fun u held => (idText_plain id held).2
    rw [parse_payloadEncoded ascii] at parsed
    obtain rfl := Option.some.inj parsed
    obtain ⟨payload, own, read'⟩ := @readQrPayload_issued env _
      issue.issuedAt issue.nonce solid now
    rw [read'] at read
    have result := Except.ok.inj read
    split_ifs at result with valid
    obtain rfl := Option.some.inj result
    -- The row that was found has the id in the token, and both are spelled as the database does.
    have same := (findQrUser_eq_some found).2
    rw [own, wireText_of fun c held => (uuid_plain (env.canonical id) held).1] at same
    have spelled := (env.canonical user.id).parse_injective (env.canonical id) same
    exact ⟨issue, by simpa using listed, names.trans spelled.symm, valid⟩

/-- Every recipient a token resolves to was issued a token that has not expired. -/
theorem qr_tokens_authentic {I : Type} [DecidableEq I]
    {start world : World I TokenState (List Resolution)} (unsigned : start.shared.signed = [])
    (unresolved : ∀ i, start.procs i = [])
    (reached : (tokenClients env).Reaches (Unforged env) start world) :
    ∀ i, ∀ resolution ∈ world.procs i, resolution.Authentic env world.shared.issues := by
  have holds := reached.assertions (SignedFor env)
    (fun s _ known => ∀ resolution ∈ known,
      resolution.Authentic env s.issues ∧ resolution.issued ≤ s.issues.length)
    ⟨⟨by simp [unsigned]⟩, fun i => by simp [unresolved i]⟩ ?_
  · exact fun i resolution listed => (holds.2 i resolution listed).1
  · intro world i action shared known sound assertions allowed stepped
    obtain ⟨rfl, rfl⟩ := Prod.mk.inj (Option.some.inj stepped)
    obtain ⟨new, grown⟩ := @TokenAction.issues_grow env world.shared (world.procs i) action
    have kept : ∀ j, ∀ resolution ∈ world.procs j,
        resolution.Authentic env (action.step env world.shared (world.procs i)).1.issues ∧
          resolution.issued ≤ (action.step env world.shared (world.procs i)).1.issues.length := by
      intro j resolution listed
      obtain ⟨authentic, known⟩ := assertions j resolution listed
      rw [grown]
      exact ⟨authentic.more known new, by simp; omega⟩
    refine ⟨sound.step action _, ?_, fun j _ => kept j⟩
    cases action with
    | resolve token now =>
      cases resolved : resolveQrTransferToken env world.shared.users now token with
      | error error => simpa [TokenAction.step, resolved] using kept i
      | ok result =>
        cases result with
        | none => simpa [TokenAction.step, resolved] using kept i
        | some recipient =>
          intro resolution listed
          simp only [resolved, List.mem_append, List.mem_singleton] at listed ⊢
          rcases listed with old | rfl
          · simpa [TokenAction.step, resolved] using kept i resolution old
          · exact ⟨resolved_authentic sound allowed resolved, le_rfl⟩
    | _ => exact kept i

end Runs

/-! ## A token of Alice -/

def aliceRow : User where
  id := 0
  firebaseUid := "uid"
  accountStatus := .active
  email := none
  phone := some "0901234567"
  displayName := some "Alice"
  kycStatus := "pending"
  hashedPin := none
  createdAt := 0

def aliceIdText : String := "aaaaaaaa-0000-4000-8000-000000000001"

def aliceUsers : Table User :=
  ((Table.empty.insert? aliceRow).map Prod.snd).getD .empty

def aliceNonce : Bytes := List.replicate 12 0

-- The signature is that of the token of Alice below.
def aliceQrEnv : QrEnv where
  cfg _ := none
  hmac _ _ :=
    [0xe5, 0xbc, 0x6c, 0xdb, 0x10, 0x0f, 0xc2, 0x75, 0x65, 0x12, 0x60, 0x1d, 0x0c, 0x82, 0x73, 0x73,
      0xe8, 0xfa, 0x4c, 0x1f, 0x40, 0xa8, 0x2c, 0xd4, 0x32, 0x30, 0x70, 0x5a, 0xb8, 0x26, 0x49, 0xe0]
  idText _ := aliceIdText
  canonical _ := ⟨(Uuid.parse aliceIdText).getD ⟨[]⟩, by decide, by decide⟩

theorem aliceUsers_user : qrUser aliceQrEnv aliceUsers (Str.of aliceIdText) = .ok aliceRow := by
  decide +kernel

def aliceToken : Str :=
  tokenOf aliceQrEnv (payloadEncoded aliceQrEnv (Str.of aliceIdText) 1700000000000 aliceNonce)

theorem issued_token_resolves_alice : ∃ user ∈ aliceUsers,
    Uuid.parse (aliceQrEnv.idText user.id) = Uuid.parse (wireText (Str.of aliceIdText)) ∧
      ∀ (later : Table User) (now : ℕ) (before rest : Str), (∀ u ∈ before, isBlank u = true) →
        (∀ u ∈ rest, isBlank u = true) →
        resolveQrTransferToken aliceQrEnv later now (before ++ aliceToken ++ rest) =
          if Unexpired (expiry aliceQrEnv 1700000000000) now then
            activeRecipient aliceQrEnv later (Str.of (aliceQrEnv.idText user.id))
          else .ok none := by
  have issued : issueQrTransferToken aliceQrEnv aliceUsers (Str.of aliceIdText) 1700000000000
      aliceNonce = .ok ⟨aliceToken, expiresIn aliceQrEnv⟩ := by
    rw [issueQrTransferToken, aliceUsers_user]
    rfl
  exact issued_token_resolves issued

def aliceShows : World (Fin 2) TokenState (List Resolution) where
  shared := { users := aliceUsers, issues := [], signed := [] }
  procs _ := []

theorem qr_tokens_authentic_alice :
    ∃ world, (tokenClients aliceQrEnv).run aliceShows
        [(0, .issue (Str.of aliceIdText) 1700000000000 aliceNonce),
          (1, .resolve aliceToken 1700000060000)] = some world ∧
      world.procs 1 = [⟨.of aliceQrEnv aliceRow, 1700000060000, 1⟩] ∧
      ∀ i, ∀ resolution ∈ world.procs i, resolution.Authentic aliceQrEnv world.shared.issues := by
  have issued : issueStep aliceQrEnv aliceShows.shared (Str.of aliceIdText) 1700000000000 aliceNonce =
      { users := aliceUsers
        issues := [⟨aliceIdText, 1700000000000, aliceNonce⟩]
        signed := [payloadEncoded aliceQrEnv (Str.of aliceIdText) 1700000000000 aliceNonce] } := by
    rw [issueStep, show aliceShows.shared.users = aliceUsers from rfl, aliceUsers_user]
    rfl
  have valid : Unexpired (expiry aliceQrEnv 1700000000000) 1700000060000 :=
    (unexpired_default rfl (by norm_num) _).mpr (by norm_num)
  have found : findQrUser aliceQrEnv aliceUsers (Str.of aliceIdText) = .ok (some aliceRow) := by
    decide +kernel
  have resolved : resolveQrTransferToken aliceQrEnv aliceUsers 1700000060000 aliceToken =
      .ok (some (.of aliceQrEnv aliceRow)) := by
    have same := @resolveQrTransferToken_issued aliceQrEnv aliceUsers 0 1700000000000
      1700000060000 aliceNonce [] [] (by simp) (by simp)
    rw [List.nil_append, List.append_nil, if_pos valid, activeRecipient,
      show aliceQrEnv.idText 0 = aliceIdText from rfl, found] at same
    exact same
  let middle : World (Fin 2) TokenState (List Resolution) :=
    { shared := issueStep aliceQrEnv aliceShows.shared (Str.of aliceIdText) 1700000000000 aliceNonce
      procs := Function.update aliceShows.procs 0 [] }
  have first : (tokenClients aliceQrEnv).fire aliceShows 0
      (.issue (Str.of aliceIdText) 1700000000000 aliceNonce) = some middle := rfl
  have second : (tokenClients aliceQrEnv).fire middle 1 (.resolve aliceToken 1700000060000) =
      some
        { shared := middle.shared
          procs := Function.update middle.procs 1
            [⟨.of aliceQrEnv aliceRow, 1700000060000, 1⟩] } := by
    have users : middle.shared.users = aliceUsers := by simp only [middle, issued]
    have issues : middle.shared.issues.length = 1 := by simp [middle, issued]
    simp only [Machine.fire, tokenClients, TokenAction.step, users, resolved, issues]
    rfl
  have unforged : Unforged aliceQrEnv middle 1 (.resolve aliceToken 1700000060000) := by
    intro text parts
    rw [aliceToken, trim_solid (token_solid _ _ _), splitOn_tokenOf] at parts
    have same := (List.cons.inj parts).1
    simp [middle, issued, ← same]
  have allowed : Unforged aliceQrEnv aliceShows 0
      (.issue (Str.of aliceIdText) 1700000000000 aliceNonce) := trivial
  refine ⟨_, ?_, ?_, @qr_tokens_authentic aliceQrEnv _ _ aliceShows _ rfl (fun _ => rfl)
    (.step (.step .refl allowed first) unforged second)⟩
  · rw [Machine.run_cons, first, Option.bind_some, Machine.run_cons, second]
    rfl
  · simp

end Kufi.Auth
