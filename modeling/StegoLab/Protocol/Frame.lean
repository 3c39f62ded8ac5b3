import StegoLab.Library.Utf8
import StegoLab.Protocol.Context

/-!
# Authenticated frames

A frame is a clear header (prefix, salt and nonce) followed by the encrypted body: a two-byte
length, the message and zero padding. The key derivation and the authenticated encryption are
library functions, taken as parameters; the salt and the nonce that `create_frame` draws are
arguments.
-/

namespace StegoLab

open Utf8 (CodePoint)

/-! ### Library functions -/

/-- The key derivation and the authenticated encryption the frames use. -/
structure Sealing where
  /-- `pwhash.argon2id.kdf` of a password and a salt. -/
  kdf : List UInt8 → List UInt8 → List UInt8
  /-- `Aead(key).encrypt(plaintext, associated data, nonce).ciphertext`. -/
  encrypt : List UInt8 → List UInt8 → List UInt8 → List UInt8 → List UInt8
  /-- `Aead(key).decrypt(ciphertext, associated data, nonce)`. -/
  decrypt : List UInt8 → List UInt8 → List UInt8 → List UInt8 → Option (List UInt8)

def PROTOCOL_PREFIX : List UInt8 := [83, 71, 76, 66, 1]
def AUTHENTICATION_DOMAIN : List UInt8 :=
  [83, 116, 101, 103, 111, 76, 97, 98, 47, 109, 101, 115, 115, 97, 103, 101, 95, 112, 114, 111,
    116, 111, 99, 111, 108, 47, 118, 49, 0]
def HEADER_BYTES : ℕ := 45
def SALT_BYTES : ℕ := 16
def NONCE_BYTES : ℕ := 24
def MACBYTES : ℕ := 16

/-- The documented behaviour of the authenticated encryption. -/
structure Sealing.Lawful (sealing : Sealing) : Prop where
  length_encrypt : ∀ key body associated nonce,
    (sealing.encrypt key body associated nonce).length = body.length + MACBYTES
  decrypt_encrypt : ∀ key body associated nonce,
    sealing.decrypt key (sealing.encrypt key body associated nonce) associated nonce = some body

/-- A sealing that hides nothing and appends an empty tag. -/
def clear_sealing : Sealing where
  kdf password _ := password
  encrypt _ body _ _ := body ++ List.replicate MACBYTES 0
  decrypt _ cipher _ _ := some (cipher.take (cipher.length - MACBYTES))

lemma clear_sealing_lawful : clear_sealing.Lawful where
  length_encrypt _ _ _ _ := by simp [clear_sealing]
  decrypt_encrypt _ _ _ _ := by simp [clear_sealing]

/-! ### Byte encodings -/

/-- The big-endian digits of a number in `width` bytes. -/
def big_endian : ℕ → ℕ → List UInt8
  | 0, _ => []
  | width + 1, n => big_endian width (n / 256) ++ [UInt8.ofNat (n % 256)]

/-- `int.from_bytes(bytes, "big")`. -/
def from_bytes (bytes : List UInt8) : ℕ :=
  bytes.foldl (fun n byte => n * 256 + byte.toNat) 0

@[simp] lemma length_big_endian (width n : ℕ) : (big_endian width n).length = width := by
  induction width generalizing n with
  | zero => rfl
  | succ width ih => simp [big_endian, ih]

lemma from_bytes_big_endian {width n : ℕ} (h : n < 256 ^ width) :
    from_bytes (big_endian width n) = n := by
  induction width generalizing n with
  | zero =>
    rw [pow_zero] at h
    simp [big_endian, from_bytes]
    omega
  | succ width ih =>
    have hdiv : n / 256 < 256 ^ width := by
      rw [pow_succ] at h
      exact Nat.div_lt_of_lt_mul (by rwa [Nat.mul_comm])
    have hrest := ih hdiv
    rw [from_bytes] at hrest
    rw [big_endian, from_bytes, List.foldl_append, hrest]
    simp
    omega

/-- `struct.pack` of one unsigned big-endian number. -/
def struct_pack (width n : ℕ) : Except Raised (List UInt8) :=
  if n < 256 ^ width then .ok (big_endian width n) else .error .value_error

/-- `str.encode("ascii")`. -/
def encode_ascii (identifier : String) : Except Raised (List UInt8) :=
  if identifier.toList.all fun c => c.toNat < 128 then
    .ok (identifier.toList.map fun c => UInt8.ofNat c.toNat)
  else .error .value_error

/-- `bytes.ljust(width, b"\x00")`. -/
def ljust (width : ℕ) (bytes : List UInt8) : List UInt8 :=
  bytes ++ List.replicate (width - bytes.length) 0

/-! ### Frames -/

def invalid_password : ApplicationFailure :=
  { code := "invalid_password"
    message := "Enter a password containing 1 to 1,024 UTF-8 bytes."
    status_code := 422 }

def message_too_large : ApplicationFailure :=
  { code := "message_too_large"
    message := "The message exceeds this image profile's UTF-8 byte limit."
    status_code := 422 }

def invalid_message : ApplicationFailure :=
  { code := "invalid_message"
    message := "The message must contain valid UTF-8 text."
    status_code := 422 }

/-- Preserve valid passwords exactly and enforce the project input limit. -/
def password_bytes (password : List CodePoint) : Except Raised (List UInt8) :=
  if ¬ (1 ≤ password.length ∧ password.length ≤ 1024) then fail invalid_password
  else
    match Utf8.encode password with
    | none => fail invalid_password
    | some encoded => if encoded.length > 1024 then fail invalid_password else .ok encoded

/-- Encode trusted context unambiguously with fixed-width dimensions. -/
def authenticated_context (header : List UInt8) (context : ProtocolContext) :
    Except Raised (List UInt8) := do
  let identity ← encode_ascii context.compatibility_identifier
  let length ← struct_pack 2 identity.length
  let width ← struct_pack 4 context.width
  let height ← struct_pack 4 context.height
  return AUTHENTICATION_DOMAIN ++ header ++ length ++ identity ++ width ++ height

/-- The exact bytes of a message that fits the capacity. -/
def message_bytes (message : List CodePoint) (capacity : PayloadCapacity) :
    Except Raised (List UInt8) :=
  if message.length > capacity.maximum_message_bytes then fail message_too_large
  else
    match Utf8.encode message with
    | none => fail invalid_message
    | some encoded =>
      if encoded.length > capacity.maximum_message_bytes then fail message_too_large
      else .ok encoded

/-- The padded body of a frame. -/
def frame_body (capacity : PayloadCapacity) (length encoded : List UInt8) : List UInt8 :=
  ljust (capacity.frame_bytes - HEADER_BYTES - MACBYTES) (length ++ encoded)

/-- Pad and encrypt exact text with the given salt and nonce. -/
def create_frame (sealing : Sealing) (message password : List CodePoint)
    (context : ProtocolContext) (salt nonce : List UInt8) : Except Raised (List UInt8) := do
  let context ← validate_context context
  let capacity ← calculate_capacity context
  let encoded ← message_bytes message capacity
  let password_data ← password_bytes password
  let header := PROTOCOL_PREFIX ++ salt ++ nonce
  let length ← struct_pack 2 encoded.length
  let body := frame_body capacity length encoded
  let key := sealing.kdf password_data salt
  let associated ← authenticated_context header context
  return header ++ sealing.encrypt key body associated nonce

/-- The text of a decrypted body whose length and padding are right. -/
def body_message (capacity : PayloadCapacity) (body : List UInt8) :
    Option (List CodePoint) :=
  let message_length := from_bytes (body.take 2)
  if message_length > capacity.maximum_message_bytes then none
  else if (body.drop (2 + message_length)).any (· ≠ 0) then none
  else Utf8.decode ((body.drop 2).take message_length)

/-- Return text only after authentication, length, padding, and UTF-8 checks. -/
def recover_frame (sealing : Sealing) (frame : List UInt8) (password : List CodePoint)
    (context : ProtocolContext) : Except Raised (List CodePoint) := do
  let context ← validate_context context
  let capacity ← calculate_capacity context
  let password_data ← password_bytes password
  if frame.length ≠ capacity.frame_bytes ∨ frame.take 5 ≠ PROTOCOL_PREFIX then
    fail recovery_failure
  let header := frame.take HEADER_BYTES
  let salt := (header.drop 5).take 16
  let nonce := (header.drop 21).take 24
  let key := sealing.kdf password_data salt
  match authenticated_context header context with
  | .error _ => fail recovery_failure
  | .ok associated =>
    match sealing.decrypt key (frame.drop HEADER_BYTES) associated nonce with
    | none => fail recovery_failure
    | some body =>
      match body_message capacity body with
      | none => fail recovery_failure
      | some message => return message

/-! ### Specifications -/

lemma encode_ascii_of_pattern {identifier : String} (h : compatibility_pattern identifier = true) :
    ∃ identity, encode_ascii identifier = .ok identity ∧ identity.length ≤ 128 := by
  have hascii : ∀ c, (lower_or_digit c || c == '_' || c == '.' || c == '-') = true →
      c.toNat < 128 := by
    intro c hc
    simp only [lower_or_digit, Bool.or_eq_true, decide_eq_true_eq, beq_iff_eq] at hc
    rcases hc with (((⟨-, hc⟩ | ⟨-, hc⟩) | rfl) | rfl) | rfl
    · exact lt_of_le_of_lt (show c.toNat ≤ 'z'.toNat from hc) (by decide)
    · exact lt_of_le_of_lt (show c.toNat ≤ '9'.toNat from hc) (by decide)
    all_goals decide
  rw [compatibility_pattern] at h
  cases htext : identifier.toList with
  | nil => simp [htext] at h
  | cons first rest =>
    simp only [htext, Bool.and_eq_true, decide_eq_true_eq, List.all_eq_true] at h
    obtain ⟨⟨hfirst, hlen⟩, hrest⟩ := h
    have hall : (identifier.toList.all fun c => decide (c.toNat < 128)) = true := by
      rw [htext, List.all_eq_true]
      intro c hc
      rcases List.mem_cons.mp hc with rfl | hc
      · exact decide_eq_true (hascii c (by simp [hfirst]))
      · exact decide_eq_true (hascii c (hrest c hc))
    refine ⟨identifier.toList.map fun c => UInt8.ofNat c.toNat, ?_, ?_⟩
    · rw [encode_ascii, if_pos hall]
    · simp [htext]
      omega

/-- The associated data of a valid context can always be built. -/
lemma authenticated_context_of_valid {context : ProtocolContext} (h : context.Valid)
    (header : List UInt8) : ∃ associated, authenticated_context header context = .ok associated := by
  obtain ⟨⟨-, hw⟩, ⟨-, hh⟩, -, -, -, hidentifier⟩ := h
  obtain ⟨identity, hidentity, hlen⟩ := encode_ascii_of_pattern hidentifier
  simp only [MAXIMUM_IMAGE_SIDE] at hw hh
  have hpack : ∀ n ≤ 4096, ∀ width, 2 ≤ width → struct_pack width n = .ok (big_endian width n) := by
    intro n hn width hwidth
    refine if_pos ?_
    calc n < 256 ^ 2 := by omega
      _ ≤ 256 ^ width := Nat.pow_le_pow_right (by decide) hwidth
  refine ⟨AUTHENTICATION_DOMAIN ++ header ++ big_endian 2 identity.length ++ identity
    ++ big_endian 4 context.width ++ big_endian 4 context.height, ?_⟩
  rw [authenticated_context, hidentity]
  simp only [bind, Except.bind, pure, Except.pure]
  rw [hpack _ (by omega) 2 (by omega), hpack _ hw 4 (by omega), hpack _ hh 4 (by omega)]

lemma message_bytes_of_encode {message : List CodePoint} {encoded : List UInt8}
    {capacity : PayloadCapacity} (hencode : Utf8.encode message = some encoded)
    (hfits : encoded.length ≤ capacity.maximum_message_bytes) :
    message_bytes message capacity = .ok encoded := by
  have hlen := Utf8.length_le_of_encode hencode
  rw [message_bytes, if_neg (by omega), hencode]
  exact if_neg (by omega)

/-- The padded body of a message reads back as that message. -/
lemma body_message_frame_body {message : List CodePoint} {encoded : List UInt8}
    {capacity : PayloadCapacity} (hencode : Utf8.encode message = some encoded)
    (hfits : encoded.length ≤ capacity.maximum_message_bytes) :
    body_message capacity (frame_body capacity (big_endian 2 encoded.length) encoded)
      = some message := by
  have hmax := capacity.maximum_message_bytes_range.2
  have hbody : frame_body capacity (big_endian 2 encoded.length) encoded
      = big_endian 2 encoded.length ++ (encoded ++ List.replicate
          (capacity.frame_bytes - HEADER_BYTES - MACBYTES - (2 + encoded.length)) 0) := by
    rw [frame_body, ljust, List.append_assoc, List.length_append, length_big_endian]
  have htake (rest : List UInt8) :
      (big_endian 2 encoded.length ++ rest).take 2 = big_endian 2 encoded.length :=
    List.take_left' (length_big_endian 2 _)
  have hdrop (rest : List UInt8) : (big_endian 2 encoded.length ++ rest).drop 2 = rest :=
    List.drop_left' (length_big_endian 2 _)
  have hlength : from_bytes (big_endian 2 encoded.length) = encoded.length :=
    from_bytes_big_endian (by omega)
  rw [hbody, body_message, htake, hlength, if_neg (by omega), ← List.drop_drop, hdrop,
    List.drop_left, List.take_left, if_neg (by simp)]
  exact Utf8.decode_of_encode hencode

/-! ### Layout of a frame -/

lemma length_frame_body {capacity : PayloadCapacity} {encoded : List UInt8}
    (hfits : 45 + 2 + capacity.maximum_message_bytes + 16 ≤ capacity.frame_bytes)
    (hlen : encoded.length ≤ capacity.maximum_message_bytes) :
    (frame_body capacity (big_endian 2 encoded.length) encoded).length + MACBYTES + HEADER_BYTES
      = capacity.frame_bytes := by
  simp only [frame_body, ljust, List.length_append, length_big_endian, List.length_replicate,
    HEADER_BYTES, MACBYTES]
  omega

section Header

variable {salt nonce cipher : List UInt8} (hsalt : salt.length = SALT_BYTES)
  (hnonce : nonce.length = NONCE_BYTES)

include hsalt hnonce

lemma length_header : (PROTOCOL_PREFIX ++ salt ++ nonce).length = HEADER_BYTES := by
  rw [List.length_append, List.length_append, hsalt, hnonce]
  rfl

lemma take_header : (PROTOCOL_PREFIX ++ salt ++ nonce ++ cipher).take HEADER_BYTES
    = PROTOCOL_PREFIX ++ salt ++ nonce := by
  rw [← length_header hsalt hnonce, List.take_left]

lemma drop_header : (PROTOCOL_PREFIX ++ salt ++ nonce ++ cipher).drop HEADER_BYTES = cipher := by
  rw [← length_header hsalt hnonce, List.drop_left]

omit hnonce in
lemma header_salt : ((PROTOCOL_PREFIX ++ salt ++ nonce).drop 5).take 16 = salt := by
  rw [List.append_assoc]
  change (salt ++ nonce).take SALT_BYTES = salt
  rw [← hsalt, List.take_left]

lemma header_nonce : ((PROTOCOL_PREFIX ++ salt ++ nonce).drop 21).take 24 = nonce := by
  rw [List.append_assoc]
  change ((salt ++ nonce).drop SALT_BYTES).take NONCE_BYTES = nonce
  rw [← hsalt, List.drop_left, ← hnonce, List.take_length]

end Header

/-! ### Round trip of a frame -/

/-- What `create_frame` returns for a message that fits. -/
lemma create_frame_eq {sealing : Sealing} {context : ProtocolContext} (hcontext : context.Valid)
    {message password : List CodePoint} {encoded password_data salt nonce associated : List UInt8}
    (hencode : Utf8.encode message = some encoded)
    (hfits : encoded.length ≤ (capacity_of context hcontext).maximum_message_bytes)
    (hpassword : password_bytes password = .ok password_data)
    (hassociated : authenticated_context (PROTOCOL_PREFIX ++ salt ++ nonce) context
      = .ok associated) :
    create_frame sealing message password context salt nonce
      = .ok (PROTOCOL_PREFIX ++ salt ++ nonce
        ++ sealing.encrypt (sealing.kdf password_data salt)
          (frame_body (capacity_of context hcontext) (big_endian 2 encoded.length) encoded)
          associated nonce) := by
  have hmax := (capacity_of context hcontext).maximum_message_bytes_range.2
  have hpack : struct_pack 2 encoded.length = .ok (big_endian 2 encoded.length) :=
    if_pos (by omega)
  rw [create_frame, validate_context_of_valid hcontext]
  simp only [bind, Except.bind, pure, Except.pure]
  rw [calculate_capacity_of_valid hcontext]
  simp only
  rw [message_bytes_of_encode hencode hfits]
  simp only
  rw [hpassword, hpack]
  simp only
  rw [hassociated]

/-- What `recover_frame` does with a frame of the right length and prefix. -/
lemma recover_frame_eq {sealing : Sealing} {context : ProtocolContext} (hcontext : context.Valid)
    {password : List CodePoint} {frame password_data associated : List UInt8}
    (hpassword : password_bytes password = .ok password_data)
    (hlen : frame.length = (capacity_of context hcontext).frame_bytes)
    (hstart : frame.take 5 = PROTOCOL_PREFIX)
    (hassociated : authenticated_context (frame.take HEADER_BYTES) context = .ok associated) :
    recover_frame sealing frame password context
      = match (sealing.decrypt
            (sealing.kdf password_data (((frame.take HEADER_BYTES).drop 5).take 16))
            (frame.drop HEADER_BYTES) associated
            (((frame.take HEADER_BYTES).drop 21).take 24)).bind
          (body_message (capacity_of context hcontext)) with
        | none => fail recovery_failure
        | some message => .ok message := by
  have hguard : ¬ (frame.length ≠ (capacity_of context hcontext).frame_bytes ∨
      frame.take 5 ≠ PROTOCOL_PREFIX) := by
    rintro (h | h)
    · exact h hlen
    · exact h hstart
  rw [recover_frame, validate_context_of_valid hcontext]
  simp only [bind, Except.bind, pure, Except.pure]
  rw [calculate_capacity_of_valid hcontext]
  simp only
  rw [hpassword]
  simp only
  rw [if_neg hguard, hassociated]
  cases hbody : sealing.decrypt
      (sealing.kdf password_data (((frame.take HEADER_BYTES).drop 5).take 16))
      (frame.drop HEADER_BYTES) associated (((frame.take HEADER_BYTES).drop 21).take 24) with
  | none => simp only [hbody, Option.bind_none]
  | some body =>
    simp only [hbody, Option.bind_some]

/-- Creating a frame for a message that fits, then recovering it, returns the message. -/
theorem recover_frame_of_create {sealing : Sealing} (lawful : sealing.Lawful)
    {context : ProtocolContext} (hcontext : context.Valid) {message password : List CodePoint}
    {encoded password_data salt nonce : List UInt8}
    (hencode : Utf8.encode message = some encoded)
    (hfits : encoded.length ≤ (capacity_of context hcontext).maximum_message_bytes)
    (hpassword : password_bytes password = .ok password_data)
    (hsalt : salt.length = SALT_BYTES) (hnonce : nonce.length = NONCE_BYTES) :
    ∃ frame, create_frame sealing message password context salt nonce = .ok frame ∧
      frame.length = (capacity_of context hcontext).frame_bytes ∧
      recover_frame sealing frame password context = .ok message := by
  obtain ⟨associated, hassociated⟩ :=
    authenticated_context_of_valid hcontext (PROTOCOL_PREFIX ++ salt ++ nonce)
  set body := frame_body (capacity_of context hcontext) (big_endian 2 encoded.length) encoded
    with hbody
  set cipher := sealing.encrypt (sealing.kdf password_data salt) body associated nonce with hcipher
  have hlen : (PROTOCOL_PREFIX ++ salt ++ nonce ++ cipher).length
      = (capacity_of context hcontext).frame_bytes := by
    rw [List.length_append, length_header hsalt hnonce, hcipher, lawful.length_encrypt,
      Nat.add_comm]
    exact length_frame_body (message_fits_frame hcontext) hfits
  have hstart : (PROTOCOL_PREFIX ++ salt ++ nonce ++ cipher).take 5 = PROTOCOL_PREFIX := by
    rw [List.append_assoc, List.append_assoc]
    rfl
  refine ⟨_, create_frame_eq hcontext hencode hfits hpassword hassociated, hlen, ?_⟩
  rw [recover_frame_eq hcontext hpassword hlen hstart (by rw [take_header hsalt hnonce]; exact hassociated),
    take_header hsalt hnonce, drop_header hsalt hnonce, header_salt hsalt,
    header_nonce hsalt hnonce, hcipher, lawful.decrypt_encrypt, Option.bind_some, hbody,
    body_message_frame_body hencode hfits]

/-! ### Inversions -/

lemma validate_context_eq_ok {context validated : ProtocolContext}
    (h : validate_context context = .ok validated) : context.Valid ∧ validated = context := by
  rw [validate_context] at h
  by_cases hvalid : context.Valid
  · rw [if_pos hvalid] at h
    exact ⟨hvalid, (Except.ok.inj h).symm⟩
  · rw [if_neg hvalid] at h
    cases h

lemma message_bytes_eq_ok {message : List CodePoint} {capacity : PayloadCapacity}
    {encoded : List UInt8} (h : message_bytes message capacity = .ok encoded) :
    Utf8.encode message = some encoded ∧ encoded.length ≤ capacity.maximum_message_bytes := by
  rw [message_bytes] at h
  by_cases hlong : message.length > capacity.maximum_message_bytes
  · rw [if_pos hlong] at h
    cases h
  rw [if_neg hlong] at h
  cases hencode : Utf8.encode message with
  | none =>
    rw [hencode] at h
    cases h
  | some bytes =>
    rw [hencode] at h
    simp only at h
    by_cases hbytes : bytes.length > capacity.maximum_message_bytes
    · rw [if_pos hbytes] at h
      cases h
    · rw [if_neg hbytes] at h
      obtain rfl := Except.ok.inj h
      exact ⟨rfl, not_lt.mp hbytes⟩

/-- What a created frame is made of. -/
lemma create_frame_eq_ok {sealing : Sealing} {message password : List CodePoint}
    {context : ProtocolContext} {salt nonce frame : List UInt8}
    (h : create_frame sealing message password context salt nonce = .ok frame) :
    ∃ (hcontext : context.Valid) (encoded password_data associated : List UInt8),
      Utf8.encode message = some encoded ∧
      encoded.length ≤ (capacity_of context hcontext).maximum_message_bytes ∧
      password_bytes password = .ok password_data ∧
      authenticated_context (PROTOCOL_PREFIX ++ salt ++ nonce) context = .ok associated ∧
      frame = PROTOCOL_PREFIX ++ salt ++ nonce
        ++ sealing.encrypt (sealing.kdf password_data salt)
          (frame_body (capacity_of context hcontext) (big_endian 2 encoded.length) encoded)
          associated nonce := by
  have hsteps := h
  rw [create_frame] at hsteps
  obtain ⟨_, hvalidate, hcapacity⟩ := bind_eq_ok.mp hsteps
  obtain ⟨hcontext, rfl⟩ := validate_context_eq_ok hvalidate
  rw [calculate_capacity_of_valid hcontext] at hcapacity
  obtain ⟨_, heq, hmessage⟩ := bind_eq_ok.mp hcapacity
  obtain rfl := Except.ok.inj heq
  obtain ⟨encoded, hencoded, hrest⟩ := bind_eq_ok.mp hmessage
  obtain ⟨hencode, hfits⟩ := message_bytes_eq_ok hencoded
  obtain ⟨password_data, hpassword, -⟩ := bind_eq_ok.mp hrest
  obtain ⟨associated, hassociated⟩ :=
    authenticated_context_of_valid hcontext (PROTOCOL_PREFIX ++ salt ++ nonce)
  refine ⟨hcontext, encoded, password_data, associated, hencode, hfits, hpassword, hassociated, ?_⟩
  exact Except.ok.inj
    (h.symm.trans (create_frame_eq hcontext hencode hfits hpassword hassociated))

end StegoLab
