/-
  ChatKeys.Proofs.Key.Context

  How firmly a wrapped key is bound to its context.

  Scope and value of a context are authenticated with an equals sign between them
  (`KeyContext.joined`), and nothing says where the scope ends.  So contexts that
  read the same when joined are taken for one another:

    * `associatedData_eq_iff` — what two keys have in common if they are
      authenticated alike: their type, and the joined text of their contexts;
    * `relabelled_opens_iff` — a wrapped key with another context put on it opens
      exactly if the joined texts agree, or by a collision of Poly1305;
    * `KeyContext.joined_inj` — scopes without an equals sign, such as those of
      accounts and rooms, leave no doubt.
-/
import ChatKeys.Proofs.Crypto.Tags
import ChatKeys.Proofs.Service.Running
import ChatKeys.Proofs.Text.Utf8

namespace ChatKeys

namespace KeyContext

/-- Scope and value as they are authenticated. -/
def joined (c : KeyContext) : String := c.scope ++ "=" ++ c.value

theorem ofString_joined (c : KeyContext) :
    Bytes.ofString c.joined = Bytes.ofString c.scope ++ 0x3d :: Bytes.ofString c.value := by
  have hsign : String.utf8EncodeChar '=' = [0x3d] := rfl
  simp [joined, Bytes.ofString_eq_ofChars, hsign]

/-- A sign that is in neither front marks where both fronts end. -/
theorem append_cons_inj {α : Type} {sign : α} {front front' back back' : List α}
    (h : sign ∉ front) (h' : sign ∉ front')
    (heq : front ++ sign :: back = front' ++ sign :: back') : front = front' ∧ back = back' := by
  induction front generalizing front' with
  | nil =>
    cases front' with
    | nil => exact ⟨rfl, (List.cons.inj heq).2⟩
    | cons b front' => exact absurd ((List.cons.inj heq).1 ▸ List.mem_cons_self) h'
  | cons a front ih =>
    cases front' with
    | nil => exact absurd ((List.cons.inj heq).1 ▸ List.mem_cons_self) h
    | cons b front' =>
      obtain ⟨rfl, hrest⟩ := List.cons.inj heq
      obtain ⟨rfl, rfl⟩ := ih (fun hm => h (List.mem_cons_of_mem _ hm))
        (fun hm => h' (List.mem_cons_of_mem _ hm)) hrest
      exact ⟨rfl, rfl⟩

/-- The first equals sign ends the scope, if the scope itself has none. -/
theorem joined_inj {c c' : KeyContext} (h : '=' ∉ c.scope.toList) (h' : '=' ∉ c'.scope.toList) :
    c.joined = c'.joined ↔ c = c' := by
  constructor
  · intro hjoined
    have hchars : c.scope.toList ++ '=' :: c.value.toList
        = c'.scope.toList ++ '=' :: c'.value.toList := by
      simpa [joined] using congrArg String.toList hjoined
    obtain ⟨hscope, hvalue⟩ := append_cons_inj h h' hchars
    obtain ⟨scope, value⟩ := c
    obtain ⟨scope', value'⟩ := c'
    rw [mk.injEq]
    exact ⟨String.toList_inj.mp hscope, String.toList_inj.mp hvalue⟩
  · rintro rfl
    rfl

end KeyContext

namespace Key

variable {k k' outer w : Key}

/-! ## Associated data -/

/-- What is authenticated behind the type: nothing, or the joined text of a context
    behind a zero byte. -/
def contextBytes : Option String → Bytes
  | none => []
  | some joined => 0 :: Bytes.ofString joined

theorem contextBytes_inj {o o' : Option String} (h : contextBytes o = contextBytes o') : o = o' := by
  cases o with
  | none =>
    cases o' with
    | none => rfl
    | some joined => cases h
  | some joined =>
    cases o' with
    | none => cases h
    | some joined' => rw [Bytes.ofString_inj.mp (List.cons.inj h).2]

theorem associatedData_eq (k : Key) :
    k.associatedData
      = Bytes.ofString k.type.label ++ contextBytes (k.context.map KeyContext.joined) := by
  rw [associatedData]
  cases k.context with
  | none => rfl
  | some c => simp only [Option.map_some, contextBytes, KeyContext.ofString_joined, List.cons_append]

/-- The labels of the two types differ in their second letter already. -/
theorem type_eq_of_label_append {t t' : KeyType} {rest rest' : Bytes}
    (h : Bytes.ofString t.label ++ rest = Bytes.ofString t'.label ++ rest') : t = t' := by
  have hsecond : ∀ (t : KeyType) (rest : Bytes),
      (Bytes.ofString t.label ++ rest)[1]? = (Bytes.ofString t.label)[1]? := by
    intro t rest
    cases t <;> rfl
  have hletter : (Bytes.ofString t.label)[1]? = (Bytes.ofString t'.label)[1]? := by
    rw [← hsecond t rest, h, hsecond]
  cases t <;> cases t'
  · rfl
  · exact absurd hletter (by decide)
  · exact absurd hletter (by decide)
  · rfl

/-- Keys that are authenticated alike have the same type, and contexts that read the
    same when joined. -/
theorem associatedData_eq_iff :
    k.associatedData = k'.associatedData ↔
      k.type = k'.type ∧ k.context.map KeyContext.joined = k'.context.map KeyContext.joined := by
  rw [associatedData_eq, associatedData_eq]
  constructor
  · intro h
    have htype : k.type = k'.type := type_eq_of_label_append h
    rw [htype] at h
    exact ⟨htype, contextBytes_inj (List.append_cancel_left h)⟩
  · rintro ⟨htype, hcontext⟩
    rw [htype, hcontext]

/-! ## Another context on a wrapped key -/

/-- The key bound to a context. -/
def inContext (k : Key) (c : KeyContext) : Key :=
  k.withContext c.scope c.value

/-- For two contexts of a key that is wrapped under an outer key, what is
    authenticated differs but has the same tag. -/
def ContextCollision (k outer : Key) (c c' : KeyContext) : Prop :=
  ∃ key secret, outer.cipherSecret = .ok key ∧ k.secret = .ok secret ∧
    let ciphertext := XChaCha20Poly1305.encrypt key.bytes k.iv secret.bytes
    Poly1305.Collision (XChaCha20Poly1305.tagKey key.bytes k.iv)
      (XChaCha20Poly1305.authenticated (k.inContext c).associatedData ciphertext)
      (XChaCha20Poly1305.authenticated (k.inContext c').associatedData ciphertext)

/-- Two contexts of a key are authenticated alike exactly if they read the same. -/
theorem associatedData_inContext_eq_iff {c c' : KeyContext} :
    (k.inContext c).associatedData = (k.inContext c').associatedData ↔ c.joined = c'.joined := by
  rw [associatedData_eq_iff]
  simp only [inContext, withContext, Option.map_some, Option.some.injEq, true_and]

/-- What unwrapping answers once key and vector are known to be of use. -/
theorem unwrap_ofCiphertext {key : KeyBytes} {type : KeyType} {iv : Bytes}
    {context : Option KeyContext} (hkey : outer.cipherSecret = .ok key) (hiv : iv.length = ivSize)
    (ciphertext : Bytes) :
    (ofCiphertext type iv ciphertext context).unwrap outer =
      match XChaCha20Poly1305.unwrap? key.bytes iv
          (ofCiphertext type iv ciphertext context).associatedData ciphertext with
      | none => .error .accessDenied
      | some plaintext =>
        if h : plaintext.length = keySize then
          .ok { type := type, iv := iv, context := context, material := .plain ⟨plaintext, h⟩ }
        else .error (.keyState (.invalidLength type.size plaintext.length)) := by
  have hnonce : (ofCiphertext type iv ciphertext context).nonce = .ok iv := if_pos hiv
  rw [unwrap]
  simp only [ofCiphertext] at hnonce ⊢
  simp only [hkey, hnonce]
  rfl

/-- The material of a key that was wrapped along with any data opens as that key
    exactly if the tag is that of the key's own data. -/
theorem unwrap_ofCiphertext_wrap {key secret : KeyBytes} (hk : k.material = .plain secret)
    (hkey : outer.cipherSecret = .ok key) (hiv : k.iv.length = ivSize) (associated : Bytes) :
    (ofCiphertext k.type k.iv
        (XChaCha20Poly1305.wrap key.bytes k.iv associated secret.bytes) k.context).unwrap outer =
      let ciphertext := XChaCha20Poly1305.encrypt key.bytes k.iv secret.bytes
      if XChaCha20Poly1305.tag key.bytes k.iv associated ciphertext
          = XChaCha20Poly1305.tag key.bytes k.iv k.associatedData ciphertext then .ok k
      else .error .accessDenied := by
  obtain ⟨type, iv, context, material⟩ := k
  cases hk
  rw [unwrap_ofCiphertext hkey hiv, XChaCha20Poly1305.unwrap?_wrap_eq_ite,
    XChaCha20Poly1305.encrypt_encrypt]
  -- The key and its wrapped form are authenticated by the same labels.
  have hlabels : (ofCiphertext type iv (XChaCha20Poly1305.wrap key.bytes iv associated secret.bytes)
      context).associatedData = associatedData ⟨type, iv, context, .plain secret⟩ := rfl
  rw [hlabels]
  by_cases htag : XChaCha20Poly1305.tag key.bytes iv associated
        (XChaCha20Poly1305.encrypt key.bytes iv secret.bytes)
      = XChaCha20Poly1305.tag key.bytes iv (associatedData ⟨type, iv, context, .plain secret⟩)
        (XChaCha20Poly1305.encrypt key.bytes iv secret.bytes)
  · simp only [if_pos htag, secret.length_bytes, dif_pos]
  · simp only [if_neg htag]

theorem tag_inContext_eq_iff {key secret : KeyBytes} (hkey : outer.cipherSecret = .ok key)
    (hsecret : k.secret = .ok secret) {c c' : KeyContext} :
    XChaCha20Poly1305.tag key.bytes k.iv (k.inContext c).associatedData
        (XChaCha20Poly1305.encrypt key.bytes k.iv secret.bytes)
      = XChaCha20Poly1305.tag key.bytes k.iv (k.inContext c').associatedData
        (XChaCha20Poly1305.encrypt key.bytes k.iv secret.bytes)
      ↔ c.joined = c'.joined ∨ ContextCollision k outer c c' := by
  rw [XChaCha20Poly1305.tag_eq_tag_iff, associatedData_inContext_eq_iff]
  constructor
  · rintro (hjoined | hcollision)
    · exact .inl hjoined
    · exact .inr ⟨key, secret, hkey, hsecret, hcollision⟩
  · rintro (hjoined | ⟨key', secret', hkey', hsecret', hcollision⟩)
    · exact .inl hjoined
    · obtain rfl : key = key' := Except.ok.inj (hkey.symm.trans hkey')
      obtain rfl : secret = secret' := Except.ok.inj (hsecret.symm.trans hsecret')
      exact .inr hcollision

/-- Wrapped in one context, a key opens in another exactly if both have the same
    tag, which takes the same joined text or a collision. -/
theorem unwrap_inContext {c c' : KeyContext} (hw : (k.inContext c).wrap outer = .ok w) :
    (c.joined = c'.joined ∨ ContextCollision k outer c c' →
        (w.inContext c').unwrap outer = .ok (k.inContext c')) ∧
      (¬ (c.joined = c'.joined ∨ ContextCollision k outer c c') →
        (w.inContext c').unwrap outer = .error .accessDenied) := by
  obtain ⟨secret, key, hk, hkey, hiv, hwrapped⟩ := wrap_eq_ok_iff.mp hw
  have hk' : (k.inContext c').material = .plain secret := hk
  have hsecret : k.secret = .ok secret := by
    have hmaterial : k.material = .plain secret := hk
    rw [Key.secret, hmaterial]
  have hrelabelled : w.inContext c' = ofCiphertext (k.inContext c').type (k.inContext c').iv
      (XChaCha20Poly1305.wrap key.bytes (k.inContext c').iv (k.inContext c).associatedData
        secret.bytes) (k.inContext c').context := by
    rw [hwrapped]
    rfl
  rw [hrelabelled, unwrap_ofCiphertext_wrap hk' hkey hiv, ← tag_inContext_eq_iff hkey hsecret]
  exact ⟨fun htag => if_pos htag, fun htag => if_neg htag⟩

end Key

/-- The service passes a denial on. -/
theorem LocalKms.unwrap_of_accessDenied {kms : LocalKms} {w : Key}
    (h : w.unwrap kms.master = .error .accessDenied) : kms.unwrap w = .error .accessDenied := by
  rw [unwrap, h]

namespace Key

/-- What a key is authenticated with tells its type, and its context up to the place
    where the scope ends; where neither scope has an equals sign, it tells that too.
    Under a context that reads the same as its own a wrapped key opens, with its
    outer key and by the service that holds that key. Under any other it is
    refused, unless the two contexts collide. -/
theorem binds_joined_context (k outer : Key) (c c' : KeyContext) :
    (∀ k' : Key, k.associatedData = k'.associatedData ↔
      k.type = k'.type ∧ k.context.map KeyContext.joined = k'.context.map KeyContext.joined) ∧
    ('=' ∉ c.scope.toList → '=' ∉ c'.scope.toList → (c.joined = c'.joined ↔ c = c')) ∧
    ∀ houter : outer.isUsable = true, k.isEncrypted = false → k.iv.length = ivSize →
      ∃ w, (k.inContext c).wrap outer = .ok w ∧
        (c.joined = c'.joined ∨ ContextCollision k outer c c' →
          (w.inContext c').unwrap outer = .ok (k.inContext c') ∧
          (⟨outer, houter⟩ : LocalKms).unwrap (w.inContext c') = .ok (k.inContext c')) ∧
        (¬ (c.joined = c'.joined ∨ ContextCollision k outer c c') →
          (w.inContext c').unwrap outer = .error .accessDenied ∧
          (⟨outer, houter⟩ : LocalKms).unwrap (w.inContext c') = .error .accessDenied) := by
  refine ⟨fun _ => associatedData_eq_iff, KeyContext.joined_inj, ?_⟩
  intro houter hplain hiv
  obtain ⟨secret, hk⟩ := exists_plain hplain
  obtain ⟨w, hw⟩ : ∃ w, (k.inContext c).wrap outer = .ok w := exists_wrap hk houter hiv
  obtain ⟨hopens, hrefused⟩ := unwrap_inContext hw
  refine ⟨w, hw, fun hsame => ⟨hopens hsame, ?_⟩, fun hother => ⟨hrefused hother, ?_⟩⟩
  · exact LocalKms.unwrap_eq_ok_iff.mpr (unwrap_eq_ok_iff.mp (hopens hsame))
  · exact LocalKms.unwrap_of_accessDenied (hrefused hother)

/-- The example key with a vector. -/
def exampleInner : Key := exampleKey.withIv (List.replicate ivSize 0)

/-- The example key, wrapped under itself for the room `a=b`, opens with `room=a` as
    the scope and `b` as the value. No such doubt is possible between scopes without
    an equals sign. -/
theorem binds_joined_context_example :
    exampleKey.isUsable = true ∧ exampleInner.isEncrypted = false ∧
      exampleInner.iv.length = ivSize ∧
      (⟨"room", "a=b"⟩ : KeyContext).joined = (⟨"room=a", "b"⟩ : KeyContext).joined ∧
      '=' ∉ "room".toList ∧ '=' ∉ "nonce".toList ∧
      (⟨"room", "a=b"⟩ : KeyContext).joined ≠ (⟨"nonce", "a=b"⟩ : KeyContext).joined ∧
      ∃ w, (exampleInner.inContext ⟨"room", "a=b"⟩).wrap exampleKey = .ok w ∧
        (w.inContext ⟨"room=a", "b"⟩).unwrap exampleKey
          = .ok (exampleInner.inContext ⟨"room=a", "b"⟩) ∧
        (⟨exampleKey, rfl⟩ : LocalKms).unwrap (w.inContext ⟨"room=a", "b"⟩)
          = .ok (exampleInner.inContext ⟨"room=a", "b"⟩) := by
  obtain ⟨-, hscopes, -⟩ :=
    binds_joined_context exampleInner exampleKey ⟨"room", "a=b"⟩ ⟨"nonce", "a=b"⟩
  obtain ⟨-, -, hwrapped⟩ :=
    binds_joined_context exampleInner exampleKey ⟨"room", "a=b"⟩ ⟨"room=a", "b"⟩
  have hjoined : (⟨"room", "a=b"⟩ : KeyContext).joined = (⟨"room=a", "b"⟩ : KeyContext).joined := by
    decide
  have hroom : '=' ∉ "room".toList := by decide
  have hnonce : '=' ∉ "nonce".toList := by decide
  have hother : (⟨"room", "a=b"⟩ : KeyContext).joined ≠ (⟨"nonce", "a=b"⟩ : KeyContext).joined :=
    fun hjoined => absurd ((hscopes hroom hnonce).mp hjoined) (by decide)
  obtain ⟨w, hw, hopens, -⟩ := hwrapped rfl rfl rfl
  exact ⟨rfl, rfl, rfl, hjoined, hroom, hnonce, hother, w, hw, hopens (.inl hjoined)⟩

/-- An equals sign can end the scope in one context and belong to it in another. So
    different contexts are authenticated alike, and a key wrapped in one opens in the
    other. -/
theorem not_binds_context :
    ¬ (∀ k k' : Key, k.associatedData = k'.associatedData →
        k.type = k'.type ∧ k.context = k'.context) ∧
      ¬ ∀ (k outer w : Key) (houter : outer.isUsable = true) (c c' : KeyContext),
        k.isEncrypted = false → k.iv.length = ivSize → c ≠ c' →
        (k.inContext c).wrap outer = .ok w →
        (w.inContext c').unwrap outer = .error .accessDenied ∧
          (⟨outer, houter⟩ : LocalKms).unwrap (w.inContext c') = .error .accessDenied := by
  let c : KeyContext := ⟨"room", "a=b"⟩
  let c' : KeyContext := ⟨"room=a", "b"⟩
  have hjoined : c.joined = c'.joined := by decide
  have hne : c ≠ c' := by decide
  constructor
  · intro hbinds
    obtain ⟨-, hcontext⟩ := hbinds (exampleKey.inContext c) (exampleKey.inContext c')
      (associatedData_inContext_eq_iff.mpr hjoined)
    exact hne (Option.some.inj hcontext)
  · intro hrefuses
    obtain ⟨w, hw⟩ : ∃ w, (exampleInner.inContext c).wrap exampleKey = .ok w :=
      exists_wrap rfl rfl rfl
    have hrefused := (hrefuses exampleInner exampleKey w rfl c c' rfl rfl hne hw).1
    rw [(unwrap_inContext hw).1 (.inl hjoined)] at hrefused
    cases hrefused

end Key

end ChatKeys
