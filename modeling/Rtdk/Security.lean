import Rtdk.NetDef

/-! Authentication and encryption of frames (`security.c`, `prepare_iv`).

OpenSSL is a parameter: `Evp C` lists the cipher calls the code makes on a
context of type `C`, each with the success flag the code tests, the bytes the
call stores and the context it leaves. `securityEncrypt` and `securityDecrypt`
follow the C functions call by call, so a failure at any call leaves exactly
the output written so far. `Evp.Lawful` is what OpenSSL documents for an AEAD
cipher: opening undoes sealing under the same key, IV and associated data. -/

namespace Rtdk.Security
open Rtdk.Memory Rtdk.Endian Rtdk.NetDef

/-- The EVP calls of `security.c` on a cipher context. -/
structure Evp (C : Type) where
  /-- `EVP_EncryptInit_ex2(ctx, NULL, NULL, iv, NULL)`. -/
  encryptInit : C → List UInt8 → Bool × C
  /-- `EVP_EncryptUpdate(ctx, NULL, &len, associated_data, n)`. -/
  encryptAad : C → List UInt8 → Bool × C
  /-- `EVP_EncryptUpdate(ctx, ciphertext, &len, plaintext, n)`. -/
  encryptUpdate : C → List UInt8 → Bool × List UInt8 × C
  /-- `EVP_EncryptFinal_ex`. -/
  encryptFinal : C → Bool × List UInt8 × C
  /-- `EVP_CIPHER_CTX_ctrl(ctx, EVP_CTRL_GCM_GET_TAG, 16, tag)`. -/
  getTag : C → Bool × List UInt8 × C
  /-- `EVP_DecryptInit_ex2(ctx, NULL, NULL, iv, NULL)`. -/
  decryptInit : C → List UInt8 → Bool × C
  /-- `EVP_DecryptUpdate(ctx, NULL, &len, associated_data, n)`. -/
  decryptAad : C → List UInt8 → Bool × C
  /-- `EVP_DecryptUpdate(ctx, plaintext, &len, ciphertext, n)`. -/
  decryptUpdate : C → List UInt8 → Bool × List UInt8 × C
  /-- `EVP_CIPHER_CTX_ctrl(ctx, EVP_CTRL_GCM_SET_TAG, 16, tag)`. -/
  setTag : C → List UInt8 → Bool × C
  /-- `EVP_DecryptFinal_ex`. -/
  decryptFinal : C → Bool × List UInt8 × C

def securityIvLen : Nat := 12
def securityIvPrefixLen : Nat := 6
def einval : Int := 22
def eperm : Int := 1

variable {C : Type}

/-- Return value of `security_encrypt`, the bytes it stored at `ciphertext` and
at `tag`, and the cipher context after it. -/
structure EncryptResult (C : Type) where
  ctx : C
  ret : Int
  ciphertext : List UInt8
  tag : List UInt8

/-- Return value of `security_decrypt`, the bytes it stored at `plaintext`, and
the cipher context after it. -/
structure DecryptResult (C : Type) where
  ctx : C
  ret : Int
  plaintext : List UInt8

/-- The common tail of `security_encrypt`: finalise and fetch the tag. `ct` is
what the update call stored, `null` says that no plaintext was given. -/
def encryptTail (evp : Evp C) (c : C) (null : Bool) (ct : List UInt8) : EncryptResult C :=
  let (ok, fin, c) := evp.encryptFinal c
  let ct := if null then ct else ct ++ fin
  if !ok then ⟨c, -einval, ct, []⟩ else
  let (ok, tag, c) := evp.getTag c
  if !ok then ⟨c, -einval, ct, []⟩ else
  ⟨c, 0, ct, tag⟩

/-- OpenSSL reads `SECURITY_IV_LEN` bytes at `iv`; a `none` plaintext is `NULL`. -/
def securityEncrypt (evp : Evp C) (c : C) (plaintext : Option (List UInt8))
    (associatedData iv : List UInt8) : EncryptResult C :=
  let (ok, c) := evp.encryptInit c (iv.take securityIvLen)
  if !ok then ⟨c, -einval, [], []⟩ else
  let (ok, c) := evp.encryptAad c associatedData
  if !ok then ⟨c, -einval, [], []⟩ else
  match plaintext with
  | none => encryptTail evp c true []
  | some pt =>
    let (ok, ct, c) := evp.encryptUpdate c pt
    if !ok then ⟨c, -einval, ct, []⟩ else encryptTail evp c false ct

/-- The common tail of `security_decrypt`: set the expected tag and finalise. -/
def decryptTail (evp : Evp C) (c : C) (null : Bool) (tag pt : List UInt8) : DecryptResult C :=
  let (ok, c) := evp.setTag c tag
  if !ok then ⟨c, -einval, pt⟩ else
  let (ok, fin, c) := evp.decryptFinal c
  let pt := if null then pt else pt ++ fin
  ⟨c, if ok then 0 else -eperm, pt⟩

def securityDecrypt (evp : Evp C) (c : C) (ciphertext : Option (List UInt8))
    (associatedData tag iv : List UInt8) : DecryptResult C :=
  let (ok, c) := evp.decryptInit c (iv.take securityIvLen)
  if !ok then ⟨c, -einval, []⟩ else
  let (ok, c) := evp.decryptAad c associatedData
  if !ok then ⟨c, -einval, []⟩ else
  match ciphertext with
  | none => decryptTail evp c true tag []
  | some ct =>
    let (ok, pt, c) := evp.decryptUpdate c ct
    if !ok then ⟨c, -einval, pt⟩ else decryptTail evp c false tag pt

/-- One call of `security_encrypt` on a frame: the IV bytes OpenSSL reads, the
associated data and the plaintext. -/
structure SealCall where
  iv : List UInt8
  aad : List UInt8
  plaintext : Option (List UInt8)
  deriving DecidableEq

/-- **AEAD contract.**  Sealing succeeds with a 16-byte tag and a ciphertext of
the plaintext's length, neither call changes the key, and opening what was
sealed under the same key, IV and associated data succeeds and gives the
plaintext back. -/
structure Evp.Lawful {K : Type} (evp : Evp C) (key : C → K) : Prop where
  encrypt_key : ∀ c pt aad iv, key (securityEncrypt evp c pt aad iv).ctx = key c
  decrypt_key : ∀ c ct aad tag iv, key (securityDecrypt evp c ct aad tag iv).ctx = key c
  encrypt_ret : ∀ c pt aad iv, (securityEncrypt evp c pt aad iv).ret = 0
  tag_length : ∀ c pt aad iv,
    (securityEncrypt evp c pt aad iv).tag.length = sizeofSecurityChecksum
  ciphertext_length : ∀ c pt aad iv,
    (securityEncrypt evp c (some pt) aad iv).ciphertext.length = pt.length
  open_auth : ∀ c c' aad iv, key c = key c' →
    (securityDecrypt evp c' none aad (securityEncrypt evp c none aad iv).tag iv).ret = 0
  open_seal : ∀ c c' pt aad iv, key c = key c' →
    let sealed := securityEncrypt evp c (some pt) aad iv
    let opened := securityDecrypt evp c' (some sealed.ciphertext) aad sealed.tag iv
    opened.ret = 0 ∧ opened.plaintext = pt

/-- **AEAD contract for calls that may fail.**  As `Evp.Lawful`, but any call may
return an error; the promises about checksum, ciphertext and opening are for
sealings that returned zero. -/
structure Evp.Sound {K : Type} (evp : Evp C) (key : C → K) : Prop where
  encrypt_key : ∀ c pt aad iv, key (securityEncrypt evp c pt aad iv).ctx = key c
  decrypt_key : ∀ c ct aad tag iv, key (securityDecrypt evp c ct aad tag iv).ctx = key c
  tag_length : ∀ c pt aad iv, (securityEncrypt evp c pt aad iv).ret = 0 →
    (securityEncrypt evp c pt aad iv).tag.length = sizeofSecurityChecksum
  ciphertext_length : ∀ c pt aad iv, (securityEncrypt evp c (some pt) aad iv).ret = 0 →
    (securityEncrypt evp c (some pt) aad iv).ciphertext.length = pt.length
  open_auth : ∀ c c' aad iv, key c = key c' → (securityEncrypt evp c none aad iv).ret = 0 →
    (securityDecrypt evp c' none aad (securityEncrypt evp c none aad iv).tag iv).ret = 0
  open_seal : ∀ c c' pt aad iv, key c = key c' → (securityEncrypt evp c (some pt) aad iv).ret = 0 →
    let sealed := securityEncrypt evp c (some pt) aad iv
    (securityDecrypt evp c' (some sealed.ciphertext) aad sealed.tag iv).ret = 0

theorem Evp.Lawful.sound {K : Type} {evp : Evp C} {key : C → K} (h : evp.Lawful key) :
    evp.Sound key where
  encrypt_key := h.encrypt_key
  decrypt_key := h.decrypt_key
  tag_length c pt aad iv _ := h.tag_length c pt aad iv
  ciphertext_length c pt aad iv _ := h.ciphertext_length c pt aad iv
  open_auth c c' aad iv hkey _ := h.open_auth c c' aad iv hkey
  open_seal c c' pt aad iv hkey _ := (h.open_seal c c' pt aad iv hkey).1

/-! ## Initialisation vectors -/

/-- The `n` bytes a `memcpy` reads from a C string: past its end, the
terminating NUL. -/
def cBytes (s : List UInt8) (n : Nat) : List UInt8 := (List.range n).map fun i => s.getD i 0

@[simp] theorem cBytes_length (s : List UInt8) (n : Nat) : (cBytes s n).length = n := by
  simp [cBytes]

/-- `prepare_iv`: the prefix, then all eight bytes of the counter, least
significant first. The struct is 14 bytes long, two more than an IV. -/
def prepareIv (ivPrefix : List UInt8) (sequenceCounter : UInt64) : List UInt8 :=
  cBytes ivPrefix securityIvPrefixLen ++ leBytes 8 sequenceCounter.toNat

/-- The bytes of it that OpenSSL uses: the prefix and six counter bytes. -/
theorem prepareIv_take (ivPrefix : List UInt8) (s : UInt64) :
    (prepareIv ivPrefix s).take securityIvLen =
      cBytes ivPrefix securityIvPrefixLen ++ leBytes 6 s.toNat := by
  have hp : (cBytes ivPrefix securityIvPrefixLen).length = 6 := cBytes_length _ _
  have ht : (leBytes 8 s.toNat).take 6 = leBytes 6 s.toNat := leBytes_take 6 8 _ (by decide)
  rw [prepareIv, List.take_append, hp, List.take_of_length_le (by rw [hp]; decide)]
  rw [show securityIvLen - 6 = 6 by rfl, ht]

/-- **IV collisions.**  Under one prefix two counters give the same IV exactly
when they agree modulo `2 ^ 48`. -/
theorem prepareIv_take_eq_iff (ivPrefix : List UInt8) (s s' : UInt64) :
    (prepareIv ivPrefix s).take securityIvLen = (prepareIv ivPrefix s').take securityIvLen ↔
      s.toNat % 2 ^ 48 = s'.toNat % 2 ^ 48 := by
  rw [prepareIv_take, prepareIv_take, List.append_cancel_left_eq, leBytes_eq_iff]
  exact Iff.rfl

/-- Counters below `2 ^ 48` never share an IV. -/
theorem prepareIv_injective (ivPrefix : List UInt8) (s s' : UInt64)
    (hs : s.toNat < 2 ^ 48) (hs' : s'.toNat < 2 ^ 48)
    (h : (prepareIv ivPrefix s).take securityIvLen =
      (prepareIv ivPrefix s').take securityIvLen) : s = s' := by
  rw [prepareIv_take_eq_iff, Nat.mod_eq_of_lt hs, Nat.mod_eq_of_lt hs'] at h
  exact UInt64.toNat_inj.mp h

/-! ## A small cipher

An executable `Evp` that meets the contract: it stores the payload unchanged
and its tag spells the IV and the byte sums of what was authenticated. It has
no secrecy; runs on concrete frames use it. -/

structure DigestCtx where
  iv : List UInt8
  aad : List UInt8
  text : List UInt8
  tag : List UInt8
  deriving DecidableEq

def byteSum (bs : List UInt8) : UInt8 := bs.foldl (· + ·) 0

/-- Sixteen bytes: the IV, then the byte sums and lengths of both inputs. -/
def digestTag (c : DigestCtx) : List UInt8 :=
  cBytes c.iv securityIvLen ++
    [byteSum c.aad, byteSum c.text, UInt8.ofNat c.aad.length, UInt8.ofNat c.text.length]

def digestEvp : Evp DigestCtx where
  encryptInit c iv := (true, { c with iv := iv, aad := [], text := [] })
  encryptAad c aad := (true, { c with aad := aad })
  encryptUpdate c pt := (true, pt, { c with text := pt })
  encryptFinal c := (true, [], c)
  getTag c := (true, digestTag c, c)
  decryptInit c iv := (true, { c with iv := iv, aad := [], text := [] })
  decryptAad c aad := (true, { c with aad := aad })
  decryptUpdate c ct := (true, ct, { c with text := ct })
  setTag c tag := (true, { c with tag := tag })
  decryptFinal c := (decide (c.tag = digestTag c), [], c)

/-- The context of a thread before its first frame. -/
def DigestCtx.fresh : DigestCtx := ⟨[], [], [], []⟩

theorem digestEvp_lawful : digestEvp.Lawful (fun _ : DigestCtx => ()) where
  encrypt_key _ _ _ _ := rfl
  decrypt_key _ _ _ _ _ := rfl
  encrypt_ret c pt aad iv := by cases pt <;> rfl
  tag_length c pt aad iv := by cases pt <;> simp [securityEncrypt, encryptTail, digestEvp,
    digestTag, sizeofSecurityChecksum, securityIvLen]
  ciphertext_length c pt aad iv := by simp [securityEncrypt, encryptTail, digestEvp]
  open_auth c c' aad iv _ := by
    simp [securityDecrypt, decryptTail, securityEncrypt, encryptTail, digestEvp, digestTag]
  open_seal c c' pt aad iv _ := by
    simp [securityDecrypt, decryptTail, securityEncrypt, encryptTail, digestEvp, digestTag]

end Rtdk.Security
