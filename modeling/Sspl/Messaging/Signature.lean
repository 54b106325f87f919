import Mathlib.Logic.Function.Basic
import Sspl.Messaging.Ingress

/-!
# What a signature covers

`EgressProcessor._add_signature` signs `str` of the whole message with the length
`len(self._jsonMsg) + 1`, and `IngressProcessor._process_msg` verifies `str` of
the section `message` with the length `len(message) + 1`. Both lengths count the
keys of a dictionary. They are used as numbers of bytes of a text with four bytes
a character, so the signature covers about one character for every four keys.

Signing is a parameter that is injective in the signed bytes.
-/

namespace Sspl

namespace Signature

variable (printable : Char → Bool)

/-- The length argument: a number of keys, used as a number of bytes. -/
def msgLen (msg : Fields) : Nat := unsignedInt (msg.length + 1)

/-- The bytes the library reads for the dictionary `msg`. -/
def msgBytes (msg : Fields) : List UInt8 :=
  (Wide.bytes ((Json.dict msg).strText printable)).take (msgLen msg)

/-- The entries `_add_signature` writes before it signs. -/
def stamp (username : String) (expires time : Int) (jsonMsg : Fields) : Fields :=
  ((jsonMsg.set "username" (.str username)).set "expires" (.int expires)).set
    "time" (.str (toString time))

/-- What `_add_signature` passes to `sspl_sign_message` for the stamped message. -/
def signedBytes (jsonMsg : Fields) : List UInt8 := msgBytes printable jsonMsg

/-- What `_process_msg` passes to `sspl_verify_message` for the section `message`. -/
def verifiedBytes (message : Fields) : List UInt8 := msgBytes printable message

theorem msgLen_le (msg : Fields) :
    msgLen msg ≤ 4 * ((Json.dict msg).strText printable).length + 4 := by
  have keys := msg.length_lt_strText printable
  have wrapped : msgLen msg ≤ msg.length + 1 := Nat.mod_le _ _
  omega

/-- The library reads these bytes, whatever else the memory holds. -/
theorem readBytes_msg (memory : Memory) (msg : Fields) :
    memory.readBytes (msgLen msg) (.wide ((Json.dict msg).strText printable)) =
      some (msgBytes printable msg) :=
  memory.readBytes_wide (msgLen_le printable msg)

/-- The two dictionaries have different numbers of keys, or their texts differ
within as many bytes as they have keys, plus one. -/
def ToldApart (m₁ m₂ : Fields) : Prop :=
  msgLen m₁ ≠ msgLen m₂ ∨ ∃ i < msgLen m₁,
    Wide.byteAt ((Json.dict m₁).strText printable) i ≠
      Wide.byteAt ((Json.dict m₂).strText printable) i

theorem msgBytes_ne_iff (m₁ m₂ : Fields) :
    msgBytes printable m₁ ≠ msgBytes printable m₂ ↔ ToldApart printable m₁ m₂ := by
  rw [ToldApart, msgBytes, msgBytes, ne_eq,
    Wide.take_bytes_eq_iff (msgLen_le printable m₁) (msgLen_le printable m₂), not_and_or]
  simp only [not_forall, exists_prop]

/-- Messages with equally many keys are signed alike as soon as their texts begin
with the same character for every four keys. -/
theorem msgBytes_eq_of_prefix {m₁ m₂ : Fields} (keys : m₁.length = m₂.length)
    (agree : ∀ j ≤ m₁.length / 4, ((Json.dict m₁).strText printable)[j]? =
      ((Json.dict m₂).strText printable)[j]?) :
    msgBytes printable m₁ = msgBytes printable m₂ := by
  by_contra differ
  obtain lengths | ⟨i, small, bytes⟩ := (msgBytes_ne_iff printable m₁ m₂).mp differ
  · exact lengths (by rw [msgLen, msgLen, keys])
  · have wrapped : msgLen m₁ ≤ m₁.length + 1 := Nat.mod_le _ _
    exact bytes (Wide.byteAt_congr (agree (i / 4) (by omega)))

section Binding

variable (memory : Memory) {Sig : Type} (sign : List UInt8 → Sig)

/-- The section `message` is accepted under a signature made of the bytes that the library
reads for it. -/
def Accepts (message : Fields) (signature : Sig) : Prop :=
  ∃ bytes, memory.readBytes (msgLen message) (.wide ((Json.dict message).strText printable)) =
    some bytes ∧ sign bytes = signature

theorem accepts_iff {message : Fields} {signature : Sig} :
    Accepts printable memory sign message signature ↔
      sign (verifiedBytes printable message) = signature := by
  rw [Accepts, readBytes_msg, verifiedBytes]
  simp

/-- Signatures bind the messages `s₁` and `s₂` on the way out and the sections
`n₁` and `n₂` on the way in. -/
structure Binds (s₁ s₂ n₁ n₂ : Fields) : Prop where
  signed : s₁ ≠ s₂ → signedBytes printable s₁ ≠ signedBytes printable s₂
  verified : verifiedBytes printable n₁ = verifiedBytes printable n₂ → n₁ = n₂
  accepted : ∀ signature, Accepts printable memory sign n₁ signature →
    Accepts printable memory sign n₂ signature → n₁ = n₂

/-- Signatures bind two messages on either side exactly when the messages are the
same or their few signed bytes tell them apart. -/
theorem binds_iff (injective : Function.Injective sign) (username : String) (expires : Int)
    (t₁ t₂ : Int) (m₁ m₂ n₁ n₂ : Fields) :
    Binds printable memory sign (stamp username expires t₁ m₁) (stamp username expires t₂ m₂)
        n₁ n₂ ↔
      (stamp username expires t₁ m₁ = stamp username expires t₂ m₂ ∨
          ToldApart printable (stamp username expires t₁ m₁) (stamp username expires t₂ m₂)) ∧
        (n₁ = n₂ ∨ ToldApart printable n₁ n₂) := by
  constructor
  · intro binds
    constructor
    · rw [← msgBytes_ne_iff]
      exact or_iff_not_imp_left.mpr binds.signed
    · rw [← msgBytes_ne_iff, or_iff_not_imp_left]
      exact fun differ same => differ (binds.verified same)
  · rintro ⟨out, inn⟩
    rw [← msgBytes_ne_iff] at out inn
    have verified : verifiedBytes printable n₁ = verifiedBytes printable n₂ → n₁ = n₂ :=
      fun same => inn.resolve_right (fun differ => differ same)
    refine ⟨fun differ => out.resolve_left differ, verified, ?_⟩
    intro signature first second
    rw [accepts_iff] at first second
    exact verified (injective (first.trans second.symm))

end Binding

/-- Five bytes are signed of the texts of two contrary alerts, and they are the same. -/
theorem contrary_alerts_signed_alike :
    ¬ Binds (fun _ => true) ⟨fun _ => [], fun _ => []⟩ id
      (stamp "sspl-ll" 3600 0 (.cons "message" (.str "fault") .nil))
      (stamp "sspl-ll" 3600 0 (.cons "message" (.str "fault_resolved") .nil))
      (.cons "target_node_id" (.str "SN01") .nil)
      (.cons "target_node_id" (.str "SN02") .nil) := by
  intro binds
  refine binds.signed (by decide) ?_
  exact msgBytes_eq_of_prefix _ (by decide) (by decide)

/-- Messages with different numbers of keys are told apart. -/
theorem binds_of_lengths :
    Binds (fun _ => true) ⟨fun _ => [], fun _ => []⟩ id
      (stamp "sspl-ll" 3600 0 (.cons "message" .null .nil))
      (stamp "sspl-ll" 3600 0 (.cons "message" .null (.cons "title" .null .nil)))
      (.cons "target_node_id" (.str "SN01") .nil)
      (.cons "target_node_id" (.str "SN01") .nil) :=
  (binds_iff _ _ id Function.injective_id _ _ _ _ _ _ _ _).mpr
    ⟨.inr (.inl (by decide)), .inl rfl⟩

end Signature

end Sspl
