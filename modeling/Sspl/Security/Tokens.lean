import Sspl.Security.KeyFiles

/-!
# Session tokens

A session gives its user a token, and `sspl_sign_message` signs with it. For the method none every
token is the same text. For the method pki it is the private key in PEM, followed by zeros, and
the key is stored for `sspl_verify_message`.

The buffers are the bytes that the functions read of them. What the signing functions use of
OpenSSL and of the file system is a parameter.
-/

namespace Sspl

variable {Key Digest δ : Type}

/-- `sspl_verify_message` of the method `none` on the bytes that it reads. -/
def NoneMethod.verifyBytes (sig : List UInt8) : Int := if sig = noneSig then 1 else 0

theorem NoneMethod.ssplVerifyMessage_of_read {memory : Memory} {arg : CArg} {sig : List UInt8}
    (read : memory.readBytes noneSig.length arg = some sig) :
    NoneMethod.ssplVerifyMessage memory arg = some (NoneMethod.verifyBytes sig) := by
  simp only [NoneMethod.ssplVerifyMessage, read]
  rfl

namespace Pki

def verifyBytes (pki : Pki Key Digest) (msg username sig : List UInt8) : Option Int :=
  (pki.keyDir username).bind (fun dir =>
    verifyLoop (fun key => some (pki.rsaVerify (pki.hash msg) sig key)) dir 0)

theorem ssplVerifyMessage_of_read {pki : Pki Key Digest} {memory : Memory} {msgLen : Nat}
    {msg username sig : CArg} {message user signature : List UInt8}
    (msgRead : memory.readBytes msgLen msg = some message)
    (userRead : memory.readString username = some user)
    (sigRead : memory.readBytes sigLength sig = some signature) :
    pki.ssplVerifyMessage memory msgLen msg username sig =
      pki.verifyBytes message user signature := by
  simp only [ssplVerifyMessage, msgRead, userRead, sigRead]
  rfl

variable {rsaVerify : Key → Option Int} {entries : List (DirEntry Key)}

/-- When every file holds a key, one key that verifies is enough. -/
theorem verifyLoop_of_mem {result : Key → Int} {e : DirEntry Key} {key : Key} {ret : Int}
    (complete : ∀ e ∈ entries, (e.name = "." ∨ e.name = "..") ∨ ∃ key, e.key = some key)
    (mem : e ∈ entries) (file : ¬ (e.name = "." ∨ e.name = "..")) (found : e.key = some key)
    (verified : result key = 1) :
    verifyLoop (fun key => some (result key)) entries ret = some 1 := by
  induction entries generalizing ret with
  | nil => cases mem
  | cons first rest ih =>
      obtain ⟨head, tail⟩ := List.forall_mem_cons.mp complete
      rw [verifyLoop]
      obtain rfl | later := List.mem_cons.mp mem
      · simp only [if_neg file, found, verified, if_true]
      · split
        · exact ih tail later
        · rename_i named
          obtain ⟨key', found'⟩ := head.resolve_left named
          simp only [found']
          split
          · rename_i one
            rw [one]
          · exact ih tail later

end Pki

namespace Tokens

/-- What the methods use that is not theirs. -/
structure Platform (Key Digest : Type) where
  hash : List UInt8 → Digest
  /-- `none` is a result of `RSA_sign` other than 1. -/
  rsaSign : Digest → Key → Option (List UInt8)
  rsaVerify : Digest → List UInt8 → Key → Int
  writePem : Key → List UInt8
  readPem : List UInt8 → Option Key
  /-- The bits of the modulus. -/
  bits : Key → Nat
  readdir : List (DirEntry Key) → List (DirEntry Key)

def keyLengthBits : Nat := 1024

/-- `_TOKEN_LENGTH`. -/
def pkiTokenLength : Nat := 1000

/-- `_TOKEN`, `"Token"`. -/
def noneToken : List UInt8 := [84, 111, 107, 101, 110]

/-- What the documentation says: what is written in PEM is read back, also with zeros after
it; a signature that is made with a key verifies under it; and all entries are read, in some
order. That the token of a key of this length is long enough is said where its length is. -/
structure Documented (p : Platform Key Digest) : Prop where
  pem : ∀ key zeros, p.readPem (p.writePem key ++ List.replicate zeros 0) = some key
  fits : ∀ key, p.bits key = keyLengthBits → (p.writePem key).length ≤ pkiTokenLength
  signs : ∀ key digest, p.bits key = keyLengthBits → ∃ sig, p.rsaSign digest key = some sig ∧
    sig.length = Pki.sigLength ∧ p.rsaVerify digest sig key = 1
  readdir : ∀ entries, (p.readdir entries).Perm entries

/-- The key directories, and the tokens that have been returned. -/
structure Vault (δ Key : Type) where
  dirs : KeyDirs δ Key
  issued : List (List UInt8 × List UInt8)

/-- The buffer is a token that was returned for the user. -/
def Vault.Issued (v : Vault δ Key) (username token : List UInt8) : Prop :=
  (username, token) ∈ v.issued

/-- A whole call of `sspl_generate_session_token`, with the name that `mkstemp` finds and the
key that `RSA_generate_key_ex` makes. -/
structure Session (Key : Type) where
  username : List UInt8
  name : String
  key : Key

inductive SignResult
  | aborted
  | failure
  | success (sig : List UInt8)
  deriving DecidableEq

/-- `memcmp` of the first bytes says that they differ. -/
def memcmp (left right : List UInt8) (n : Nat) : Bool := left.take n != right.take n

/-- The method none: the comparison with 0 is part of the length. -/
def NoneMethod.ssplSignMessage (token : List UInt8) : SignResult :=
  if memcmp token noneToken (if noneToken.length ≠ 0 then 1 else 0) then .failure
  else .success noneSig

variable (method : SecMethod) (path : List UInt8 → δ) (p : Platform Key Digest)

/-- What `sspl_verify_message` reads. -/
def Vault.pki (v : Vault δ Key) : Pki Key Digest where
  hash := p.hash
  rsaVerify := p.rsaVerify
  keyDir username := (v.dirs (path username)).map p.readdir

/-- The method pki: each failing step is an assertion. -/
def Pki.ssplSignMessage (v : Vault δ Key) (msg username token : List UInt8) : SignResult :=
  match p.readPem token with
  | none => .aborted
  | some rsa =>
    match p.rsaSign (p.hash msg) rsa with
    | none => .aborted
    | some sig =>
      let outSig := (sig ++ List.replicate Pki.sigLength 0).take Pki.sigLength
      if (v.pki path p).verifyBytes msg username outSig = some 1 then .success outSig
      else .aborted

/-- `_copy_private_key_to_token`. -/
def copyPrivateKeyToToken (key : Key) : List UInt8 :=
  (p.writePem key ++ List.replicate pkiTokenLength 0).take pkiTokenLength

def ssplSignMessage (v : Vault δ Key) (msg username token : List UInt8) : SignResult :=
  match method with
  | .none => NoneMethod.ssplSignMessage token
  | .pki => Pki.ssplSignMessage path p v msg username token

def ssplVerifyMessage (v : Vault δ Key) (msg username sig : List UInt8) : Option Int :=
  match method with
  | .none => some (NoneMethod.verifyBytes sig)
  | .pki => (v.pki path p).verifyBytes msg username sig

section

variable [DecidableEq δ]

def ssplGenerateSessionToken (v : Vault δ Key) (s : Session Key) : Option (Vault δ Key) :=
  match method with
  | .none => some { v with issued := v.issued ++ [(s.username, noneToken)] }
  | .pki =>
    let d := path s.username
    if p.bits s.key = keyLengthBits then
      ((v.dirs.ensureUserKeyDirExists d).createEmptyKeyFiles d s.name).map (fun dirs =>
        ⟨dirs.writeAndClosePrivateKey d s.name s.key,
          v.issued ++ [(s.username, copyPrivateKeyToToken p s.key)]⟩)
    else none

/-- The sessions one after the other. -/
def sessions : Transition.System (Vault δ Key) (Session Key) where
  init v := v = ⟨fun _ => none, []⟩
  next := ssplGenerateSessionToken method path p

end

/-- A token of the user signs, the signature is accepted by the verification, and any other buffer
is refused. -/
structure OnlyTokensSign (v : Vault δ Key) (msg username token : List UInt8) : Prop where
  success : (∃ sig, ssplSignMessage method path p v msg username token = .success sig) ↔
    v.Issued username token
  accepted : ∀ sig, v.Issued username token →
    ssplSignMessage method path p v msg username token = .success sig →
      ssplVerifyMessage method path p v msg username sig = some 1
  refused : ¬ v.Issued username token →
    ssplSignMessage method path p v msg username token = .failure

section Sessions

variable {path p} [DecidableEq δ] {v w : Vault δ Key} {x : Session Key}
  {username token msg : List UInt8}

/-- What holds of the vault of the method pki. -/
structure Kept (path : List UInt8 → δ) (p : Platform Key Digest) (v : Vault δ Key) : Prop where
  wellFormed : ∀ d entries, v.dirs d = some entries → KeyFiles.WellFormed entries
  complete : ∀ d entries, v.dirs d = some entries → ∀ e ∈ entries,
    (e.name = "." ∨ e.name = "..") ∨ ∃ key, e.key = some key
  stored : ∀ username token, v.Issued username token → ∃ key entries e,
    p.bits key = keyLengthBits ∧ token = copyPrivateKeyToToken p key ∧
      v.dirs (path username) = some entries ∧ e ∈ entries ∧ e.key = some key

/-- A session adds one complete file to the directory of its user. -/
theorem session_pki (step : ssplGenerateSessionToken .pki path p v x = some w) :
    p.bits x.key = keyLengthBits ∧ ∃ entries,
      (v.dirs (path x.username)).getD KeyDirs.emptyDir = entries ∧
        x.name ∉ entries.map DirEntry.name ∧
        w.dirs = Function.update v.dirs (path x.username)
          (some (entries ++ [⟨x.name, some x.key⟩])) ∧
        w.issued = v.issued ++ [(x.username, copyPrivateKeyToToken p x.key)] := by
  simp only [ssplGenerateSessionToken] at step
  split at step
  · rename_i length
    obtain ⟨dirs, created, rfl⟩ := Option.map_eq_some_iff.mp step
    simp only [KeyDirs.createEmptyKeyFiles, KeyDirs.ensureUserKeyDirExists, Function.update_self,
      Option.bind_some] at created
    split at created
    · cases created
    · rename_i unused
      cases created
      refine ⟨length, _, rfl, unused, ?_, rfl⟩
      have others : ∀ e ∈ (v.dirs (path x.username)).getD KeyDirs.emptyDir,
          KeyDirs.writeEntry x.name x.key e = e := fun e mem =>
        KeyFiles.writeEntry_of_ne x.key fun same => unused (List.mem_map.mpr ⟨e, mem, same⟩)
      simp only [KeyDirs.writeAndClosePrivateKey, Function.update_self, Option.map_some,
        Function.update_idem, List.map_append, List.map_congr_left others, List.map_id']
      simp [KeyDirs.writeEntry]
  · cases step

theorem Kept.step (kept : Kept path p v)
    (step : ssplGenerateSessionToken .pki path p v x = some w) : Kept path p w := by
  obtain ⟨length, entries, before, unused, dirs, issued⟩ := session_pki step
  have old : KeyFiles.WellFormed entries ∧ ∀ e ∈ entries,
      (e.name = "." ∨ e.name = "..") ∨ ∃ key, e.key = some key := by
    cases here : v.dirs (path x.username) with
    | none =>
        rw [here] at before
        cases before
        refine ⟨KeyFiles.emptyDir_wellFormed, ?_⟩
        simp [KeyDirs.emptyDir]
    | some entries' =>
        rw [here] at before
        cases before
        exact ⟨kept.wellFormed _ _ here, kept.complete _ _ here⟩
  have find : ∀ d entries', w.dirs d = some entries' →
      d = path x.username ∧ entries' = entries ++ [⟨x.name, some x.key⟩] ∨
        v.dirs d = some entries' := by
    intro d entries' found
    rw [dirs] at found
    by_cases same : d = path x.username
    · rw [same, Function.update_self] at found
      exact .inl ⟨same, (Option.some.inj found).symm⟩
    · rw [Function.update_of_ne same] at found
      exact .inr found
  refine ⟨?_, ?_, ?_⟩
  · intro d entries' found
    obtain ⟨-, rfl⟩ | found := find d entries' found
    · exact old.1.append unused
    · exact kept.wellFormed d entries' found
  · intro d entries' found e mem
    obtain ⟨-, rfl⟩ | found := find d entries' found
    · obtain mem | new := List.mem_append.mp mem
      · exact old.2 e mem
      · cases List.mem_singleton.mp new
        exact .inr ⟨x.key, rfl⟩
    · exact kept.complete d entries' found e mem
  · intro username token mem
    rw [Vault.Issued, issued] at mem
    obtain earlier | new := List.mem_append.mp mem
    · obtain ⟨key, entries', e, length, same, found, mem, stored⟩ :=
        kept.stored username token earlier
      by_cases here : path username = path x.username
      · rw [here] at found
        rw [found, Option.getD_some] at before
        subst before
        exact ⟨key, _, e, length, same, by rw [dirs, here, Function.update_self],
          List.mem_append_left _ mem, stored⟩
      · refine ⟨key, entries', e, length, same, ?_, mem, stored⟩
        rw [dirs, Function.update_of_ne here]
        exact found
    · cases List.mem_singleton.mp new
      exact ⟨x.key, _, ⟨x.name, some x.key⟩, length, rfl, by rw [dirs, Function.update_self],
        by simp, rfl⟩

/-- The token of a key is read back. -/
theorem readPem_token (documented : Documented p) {key : Key}
    (length : p.bits key = keyLengthBits) : p.readPem (copyPrivateKeyToToken p key) = some key := by
  have fits := documented.fits key length
  rw [copyPrivateKeyToToken, List.take_append, List.take_of_length_le fits, List.take_replicate]
  exact documented.pem key _

omit [DecidableEq δ] in
/-- A key that is stored for the user verifies what it has signed. -/
theorem Kept.verifies (kept : Kept path p v) (documented : Documented p)
    {entries : List (DirEntry Key)} {e : DirEntry Key} {key : Key} {sig : List UInt8}
    (here : v.dirs (path username) = some entries) (mem : e ∈ entries) (stored : e.key = some key)
    (verified : p.rsaVerify (p.hash msg) sig key = 1) :
    (v.pki path p).verifyBytes msg username sig = some 1 := by
  have order := documented.readdir entries
  have file := (kept.wellFormed _ entries here).file mem stored
  simp only [Pki.verifyBytes, Vault.pki, here, Option.map_some, Option.bind_some]
  exact Pki.verifyLoop_of_mem
    (fun e mem => kept.complete _ entries here e (order.mem_iff.mp mem)) (order.mem_iff.mpr mem)
    (fun named => named.elim file.1 file.2) stored verified

theorem kept_reached {xs : List (Session Key)}
    (reached : (sessions .pki path p).FreeRuns ⟨fun _ => none, []⟩ xs v) : Kept path p v := by
  refine reached.invariant (I := Kept path p) (fun _ _ _ kept _ step => kept.step step) ?_
  exact ⟨nofun, nofun, nofun⟩

/-- Every token of the method none is the same. -/
theorem noneToken_reached {xs : List (Session Key)}
    (reached : (sessions .none path p).FreeRuns ⟨fun _ => none, []⟩ xs v)
    (issued : v.Issued username token) : token = noneToken := by
  have all : ∀ pair ∈ v.issued, pair.2 = noneToken := by
    refine reached.invariant (I := fun v => ∀ pair ∈ v.issued, pair.2 = noneToken) ?_ nofun
    intro v x w old _ step pair mem
    cases step
    obtain mem | new := List.mem_append.mp mem
    · exact old pair mem
    · cases List.mem_singleton.mp new
      rfl
  exact all _ issued

/-- What the method none looks at: the first byte. -/
theorem memcmp_noneToken (token : List UInt8) :
    memcmp token noneToken (if noneToken.length ≠ 0 then 1 else 0) = false ↔
      token.head? = some 84 := by
  cases token with
  | nil => decide
  | cons first rest => simp [memcmp, noneToken]

theorem only_tokens_sign_none {xs : List (Session Key)}
    (reached : (sessions .none path p).FreeRuns ⟨fun _ => none, []⟩ xs v) :
    OnlyTokensSign .none path p v msg username token ↔
      (token.head? = some 84 → v.Issued username token) := by
  have begins : v.Issued username token → token.head? = some 84 := by
    intro issued
    rw [noneToken_reached reached issued]
    rfl
  have verified : ssplVerifyMessage .none path p v msg username noneSig = some 1 := by
    simp [ssplVerifyMessage, NoneMethod.verifyBytes]
  have signs : token.head? = some 84 →
      ssplSignMessage .none path p v msg username token = .success noneSig := by
    intro first
    rw [ssplSignMessage, NoneMethod.ssplSignMessage, (memcmp_noneToken token).mpr first]
    rfl
  have fails : token.head? ≠ some 84 →
      ssplSignMessage .none path p v msg username token = .failure := by
    intro first
    have differs := eq_true_of_ne_false (mt (memcmp_noneToken token).mp first)
    rw [ssplSignMessage, NoneMethod.ssplSignMessage, differs, if_pos rfl]
  constructor
  · intro only first
    exact only.success.mp ⟨noneSig, signs first⟩
  · intro genuine
    by_cases first : token.head? = some 84
    · refine ⟨iff_of_true ⟨noneSig, signs first⟩ (genuine first), ?_, fun other =>
        absurd (genuine first) other⟩
      intro sig _ signed
      cases (signs first).symm.trans signed
      exact verified
    · refine ⟨iff_of_false ?_ (mt begins first), fun _ issued => absurd (begins issued) first,
        fun _ => fails first⟩
      rintro ⟨sig, signed⟩
      cases (fails first).symm.trans signed

omit [DecidableEq δ] in
/-- The method pki returns success, or it aborts. -/
theorem sign_pki_ne_failure (v : Vault δ Key) (msg username token : List UInt8) :
    ssplSignMessage .pki path p v msg username token ≠ .failure := by
  unfold ssplSignMessage Pki.ssplSignMessage
  dsimp only
  split
  · exact nofun
  · split
    · exact nofun
    · split <;> exact nofun

omit [DecidableEq δ] in
/-- A token that was issued to the user signs. -/
theorem Kept.signs (kept : Kept path p v) (documented : Documented p)
    (issued : v.Issued username token) (msg : List UInt8) :
    ∃ sig, ssplSignMessage .pki path p v msg username token = .success sig ∧
      ssplVerifyMessage .pki path p v msg username sig = some 1 := by
  obtain ⟨key, entries, e, length, rfl, here, mem, stored⟩ := kept.stored username token issued
  obtain ⟨sig, signed, size, verified⟩ := documented.signs key (p.hash msg) length
  have whole : (sig ++ List.replicate Pki.sigLength 0).take Pki.sigLength = sig := by
    rw [← size, List.take_left]
  have accepted := kept.verifies documented here mem stored verified
  refine ⟨sig, ?_, accepted⟩
  simp only [ssplSignMessage, Pki.ssplSignMessage, readPem_token documented length, signed, whole,
    if_pos accepted]

theorem only_tokens_sign_pki {xs : List (Session Key)} (documented : Documented p)
    (reached : (sessions .pki path p).FreeRuns ⟨fun _ => none, []⟩ xs v) :
    OnlyTokensSign .pki path p v msg username token ↔ v.Issued username token := by
  constructor
  · intro only
    by_contra other
    exact sign_pki_ne_failure v msg username token (only.refused other)
  · intro issued
    obtain ⟨sig, signed, accepted⟩ := (kept_reached reached).signs documented issued msg
    refine ⟨iff_of_true ⟨sig, signed⟩ issued, ?_, fun other => absurd issued other⟩
    intro sig' _ signed'
    cases signed.symm.trans signed'
    exact accepted

/-- The buffers for which signing does what it should: the tokens of the user, and those that the
comparison of the method tells from one. -/
def Vault.Genuine (method : SecMethod) (v : Vault δ Key) (username token : List UInt8) : Prop :=
  match method with
  | .none => token.head? = some 84 → v.Issued username token
  | .pki => v.Issued username token

/-- After any sessions, for every user, message and buffer: only the tokens of the user sign
exactly when the buffer is one of them or, for the method none, does not begin with the first
byte of the token. -/
theorem only_tokens_sign_iff {xs : List (Session Key)} (documented : Documented p)
    (reached : (sessions method path p).FreeRuns ⟨fun _ => none, []⟩ xs v) :
    OnlyTokensSign method path p v msg username token ↔ v.Genuine method username token := by
  cases method with
  | none => exact only_tokens_sign_none reached
  | pki => exact only_tokens_sign_pki documented reached

end Sessions

namespace Example

/-- A key is a byte; it is written after a dash, and its signatures repeat it. -/
def platform : Platform UInt8 Unit where
  hash _ := ()
  rsaSign _ key := some (List.replicate Pki.sigLength key)
  rsaVerify _ sig key := if sig = List.replicate Pki.sigLength key then 1 else 0
  writePem key := [45, key]
  readPem
    | 45 :: key :: _ => some key
    | _ => none
  bits _ := keyLengthBits
  readdir := id

theorem platform_documented : Documented platform where
  pem key zeros := by simp [platform]
  fits key _ := by simp [platform, pkiTokenLength]
  signs key digest _ := ⟨_, rfl, List.length_replicate, by simp [platform]⟩
  readdir entries := .refl entries

/-- A session of the user 1. -/
def session : Session UInt8 := ⟨[1], "aaaaaa", 7⟩

theorem session_returns : (ssplGenerateSessionToken .pki id platform ⟨fun _ => none, []⟩
    session).isSome := by
  decide +kernel

/-- The token that a session has returned signs. -/
theorem session_signs : ∃ v token, v.Issued [1] token ∧
    OnlyTokensSign .pki id platform v [104, 105] [1] token := by
  obtain ⟨v, step⟩ := Option.isSome_iff_exists.mp session_returns
  obtain ⟨-, -, -, -, -, issued⟩ := session_pki step
  have genuine : v.Issued [1] (copyPrivateKeyToToken platform 7) := by
    rw [Vault.Issued, issued]
    exact List.mem_singleton.mpr rfl
  have reached : (sessions .pki id platform).FreeRuns ⟨fun _ => none, []⟩ [session] v :=
    .single trivial step
  exact ⟨v, _, genuine, (only_tokens_sign_iff .pki platform_documented reached).mpr genuine⟩

/-- A buffer that begins like the token of the method none, when there was no session. -/
def forged : List UInt8 := [84, 114, 97, 115, 104]

/-- With the method `none` every buffer that begins as the token does will sign. -/
theorem forged_signs : ¬ ∀ (method : SecMethod) (xs : List (Session UInt8))
    (v : Vault (List UInt8) UInt8) (msg username token : List UInt8),
    (sessions method id platform).FreeRuns ⟨fun _ => none, []⟩ xs v →
      OnlyTokensSign method id platform v msg username token := by
  intro all
  have only := all .none [] _ [] [1] forged (.nil _)
  have issued := only.success.mp ⟨noneSig, by decide⟩
  cases issued

example : ssplSignMessage .pki id platform ⟨fun _ => none, []⟩ [] [1] forged = .aborted := by
  decide

end Example

end Tokens

end Sspl
