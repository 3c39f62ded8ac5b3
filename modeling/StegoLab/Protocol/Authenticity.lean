import Mathlib.Data.List.Induction
import StegoLab.Protocol.Frame

/-!
# Authentic and canonical frames

Under an ideal authenticated encryption a frame is accepted only when it was created for the
message that recovery returns. The layout of the associated data and of the body leave no second
reading of the bytes.
-/

namespace StegoLab

open Utf8 (CodePoint)

/-! ### Byte encodings -/

lemma from_bytes_append_singleton (bytes : List UInt8) (byte : UInt8) :
    from_bytes (bytes ++ [byte]) = from_bytes bytes * 256 + byte.toNat := by
  rw [from_bytes, List.foldl_append]
  rfl

/-- The bytes of a number are its digits. -/
lemma big_endian_from_bytes (bytes : List UInt8) :
    big_endian bytes.length (from_bytes bytes) = bytes := by
  induction bytes using List.reverseRecOn with
  | nil => rfl
  | append_singleton bytes byte ih =>
    have hdiv : (from_bytes bytes * 256 + byte.toNat) / 256 = from_bytes bytes := by
      have := byte.toNat_lt
      omega
    have hmod : (from_bytes bytes * 256 + byte.toNat) % 256 = byte.toNat := by
      have := byte.toNat_lt
      omega
    rw [from_bytes_append_singleton, List.length_append, List.length_singleton, big_endian, hdiv,
      hmod, ih, UInt8.ofNat_toNat]

lemma big_endian_inj {width n m : ℕ} (hn : n < 256 ^ width) (hm : m < 256 ^ width)
    (h : big_endian width n = big_endian width m) : n = m := by
  rw [← from_bytes_big_endian hn, h, from_bytes_big_endian hm]

lemma struct_pack_eq_ok {width n : ℕ} {bytes : List UInt8} (h : struct_pack width n = .ok bytes) :
    n < 256 ^ width ∧ bytes = big_endian width n := by
  rw [struct_pack] at h
  by_cases hn : n < 256 ^ width
  · rw [if_pos hn] at h
    exact ⟨hn, (Except.ok.inj h).symm⟩
  · rw [if_neg hn] at h
    cases h

lemma encode_ascii_eq_ok {identifier : String} {bytes : List UInt8}
    (h : encode_ascii identifier = .ok bytes) :
    (∀ c ∈ identifier.toList, c.toNat < 128) ∧
      bytes = identifier.toList.map fun c => UInt8.ofNat c.toNat := by
  rw [encode_ascii] at h
  by_cases hascii : (identifier.toList.all fun c => c.toNat < 128) = true
  · rw [if_pos hascii] at h
    refine ⟨fun c hc => ?_, (Except.ok.inj h).symm⟩
    exact of_decide_eq_true (List.all_eq_true.mp hascii c hc)
  · rw [if_neg hascii] at h
    cases h

/-- Ascii text has one encoding. -/
lemma encode_ascii_inj {identifier identifier' : String} {bytes : List UInt8}
    (h : encode_ascii identifier = .ok bytes) (h' : encode_ascii identifier' = .ok bytes) :
    identifier = identifier' := by
  obtain ⟨hascii, hbytes⟩ := encode_ascii_eq_ok h
  obtain ⟨hascii', hbytes'⟩ := encode_ascii_eq_ok h'
  have hpair : ∀ c ∈ identifier.toList, ∀ c' ∈ identifier'.toList,
      UInt8.ofNat c.toNat = UInt8.ofNat c'.toNat → c = c' := by
    intro c hc c' hc' heq
    have hc := hascii c hc
    have hc' := hascii' c' hc'
    have hnat := congrArg UInt8.toNat heq
    rw [UInt8.toNat_ofNat', UInt8.toNat_ofNat', Nat.mod_eq_of_lt (by omega),
      Nat.mod_eq_of_lt (by omega)] at hnat
    exact Char.toNat_inj.mp hnat
  refine String.toList_injective ?_
  refine List.ext_getElem? fun i => ?_
  have hget := congrArg (fun list : List UInt8 => list[i]?) (hbytes.symm.trans hbytes')
  simp only [List.getElem?_map] at hget
  cases hc : identifier.toList[i]? with
  | none =>
    rw [hc, Option.map_none] at hget
    exact (Option.map_eq_none_iff.mp hget.symm).symm
  | some c =>
    rw [hc, Option.map_some] at hget
    obtain ⟨c', hc', heq⟩ := Option.map_eq_some_iff.mp hget.symm
    rw [hc', hpair c (List.mem_of_getElem? hc) c' (List.mem_of_getElem? hc') heq.symm]

/-! ### Associated data -/

/-- The layout of the associated data. -/
lemma authenticated_context_eq_ok {header associated : List UInt8} {context : ProtocolContext}
    (h : authenticated_context header context = .ok associated) :
    ∃ identity, encode_ascii context.compatibility_identifier = .ok identity ∧
      identity.length < 256 ^ 2 ∧ context.width < 256 ^ 4 ∧ context.height < 256 ^ 4 ∧
      associated = AUTHENTICATION_DOMAIN ++ header ++ big_endian 2 identity.length ++ identity
        ++ big_endian 4 context.width ++ big_endian 4 context.height := by
  rw [authenticated_context] at h
  obtain ⟨identity, hidentity, h⟩ := bind_eq_ok.mp h
  obtain ⟨length, hlength, h⟩ := bind_eq_ok.mp h
  obtain ⟨width, hwidth, h⟩ := bind_eq_ok.mp h
  obtain ⟨height, hheight, h⟩ := bind_eq_ok.mp h
  obtain ⟨hlt, rfl⟩ := struct_pack_eq_ok hlength
  obtain ⟨hw, rfl⟩ := struct_pack_eq_ok hwidth
  obtain ⟨hh, rfl⟩ := struct_pack_eq_ok hheight
  exact ⟨identity, hidentity, hlt, hw, hh, (pure_eq_ok.mp h).symm⟩

/-- The associated data determine the header, the identifier, the width and the height. -/
lemma authenticated_context_inj {header header' associated : List UInt8}
    {context context' : ProtocolContext} (hlen : header.length = header'.length)
    (h : authenticated_context header context = .ok associated)
    (h' : authenticated_context header' context' = .ok associated) :
    header = header' ∧ context.compatibility_identifier = context'.compatibility_identifier ∧
      context.width = context'.width ∧ context.height = context'.height := by
  obtain ⟨identity, hidentity, hlt, hw, hh, heq⟩ := authenticated_context_eq_ok h
  obtain ⟨identity', hidentity', hlt', hw', hh', heq'⟩ := authenticated_context_eq_ok h'
  have hbytes := heq.symm.trans heq'
  simp only [List.append_assoc, List.append_cancel_left_eq] at hbytes
  obtain ⟨hheader, hfields⟩ := List.append_inj hbytes hlen
  obtain ⟨hlength, htail⟩ := List.append_inj hfields (by simp)
  obtain ⟨hsame, hsizes⟩ := List.append_inj htail (big_endian_inj hlt hlt' hlength)
  obtain ⟨hwidth, hheight⟩ := List.append_inj hsizes (by simp)
  rw [← hsame] at hidentity'
  exact ⟨hheader, encode_ascii_inj hidentity hidentity', big_endian_inj hw hw' hwidth,
    big_endian_inj hh hh' hheight⟩

/-- Valid contexts differ only in what the associated data determine. -/
lemma ProtocolContext.Valid.ext {context context' : ProtocolContext} (h : context.Valid)
    (h' : context'.Valid)
    (hidentifier : context.compatibility_identifier = context'.compatibility_identifier)
    (hwidth : context.width = context'.width) (hheight : context.height = context'.height) :
    context = context' := by
  obtain ⟨-, -, -, hversion, hprofile, -⟩ := h
  obtain ⟨-, -, -, hversion', hprofile', -⟩ := h'
  cases context
  cases context'
  simp only [ProtocolContext.mk.injEq]
  exact ⟨hwidth, hheight, hversion.trans hversion'.symm, hprofile.trans hprofile'.symm, hidentifier⟩

/-! ### Bodies -/

/-- The only body that reads as a message is the one that its frame encrypts. -/
lemma body_message_eq_some {capacity : PayloadCapacity} {body : List UInt8}
    {message : List CodePoint}
    (hfits : 45 + 2 + capacity.maximum_message_bytes + 16 ≤ capacity.frame_bytes)
    (hlen : body.length + MACBYTES + HEADER_BYTES = capacity.frame_bytes)
    (h : body_message capacity body = some message) :
    ∃ encoded, Utf8.encode message = some encoded ∧
      encoded.length ≤ capacity.maximum_message_bytes ∧
      body = frame_body capacity (big_endian 2 encoded.length) encoded := by
  simp only [MACBYTES, HEADER_BYTES] at hlen
  rw [body_message] at h
  set count := from_bytes (body.take 2) with hcount
  by_cases hlong : count > capacity.maximum_message_bytes
  · rw [if_pos hlong] at h
    cases h
  rw [if_neg hlong] at h
  by_cases hpadding : ((body.drop (2 + count)).any (· ≠ 0)) = true
  · rw [if_pos hpadding] at h
    cases h
  rw [if_neg hpadding] at h
  have hencoded : ((body.drop 2).take count).length = count := by
    rw [List.length_take, List.length_drop]
    omega
  refine ⟨(body.drop 2).take count, Utf8.encode_of_decode h, by omega, ?_⟩
  have hlength : big_endian 2 count = body.take 2 := by
    have htake : (body.take 2).length = 2 := by
      rw [List.length_take]
      omega
    have := big_endian_from_bytes (body.take 2)
    rwa [htake, ← hcount] at this
  have hzeros : body.drop (2 + count) = List.replicate (body.length - (2 + count)) 0 := by
    refine List.eq_replicate_iff.mpr ⟨List.length_drop, fun byte hbyte => ?_⟩
    by_contra hne
    exact hpadding (List.any_eq_true.mpr ⟨byte, hbyte, decide_eq_true hne⟩)
  rw [hencoded, hlength, frame_body, ljust]
  have hstart : body.take 2 ++ (body.drop 2).take count = body.take (2 + count) :=
    List.take_add.symm
  have hwidth : capacity.frame_bytes - HEADER_BYTES - MACBYTES - (2 + count)
      = body.length - (2 + count) := by
    simp only [MACBYTES, HEADER_BYTES]
    omega
  rw [hstart, List.length_take, Nat.min_eq_left (by omega), hwidth, ← hzeros,
    List.take_append_drop]

/-! ### Ideal encryption -/

/-- A call of `create_frame`, with the salt and the nonce it drew. -/
structure Creation where
  message : List CodePoint
  password : List CodePoint
  context : ProtocolContext
  salt : List UInt8
  nonce : List UInt8
  salt_length : salt.length = SALT_BYTES
  nonce_length : nonce.length = NONCE_BYTES

def Creation.header (creation : Creation) : List UInt8 :=
  PROTOCOL_PREFIX ++ creation.salt ++ creation.nonce

/-- The frame a call returned. -/
def Creation.frame (sealing : Sealing) (creation : Creation) : Except Raised (List UInt8) :=
  create_frame sealing creation.message creation.password creation.context creation.salt
    creation.nonce

/-- The arguments of one encryption. -/
structure Encryption where
  key : List UInt8
  body : List UInt8
  associated : List UInt8
  nonce : List UInt8
  deriving DecidableEq

/-- What a call encrypts. -/
def Creation.encryption (kdf : List UInt8 → List UInt8 → List UInt8) (creation : Creation) :
    Except Raised Encryption := do
  let context ← validate_context creation.context
  let capacity ← calculate_capacity context
  let encoded ← message_bytes creation.message capacity
  let password_data ← password_bytes creation.password
  let length ← struct_pack 2 encoded.length
  let associated ← authenticated_context creation.header context
  return {
    key := kdf password_data creation.salt
    body := frame_body capacity length encoded
    associated := associated
    nonce := creation.nonce }

/-- The frame of a call is its header followed by what it encrypts. -/
lemma Creation.frame_eq_encryption (sealing : Sealing) (creation : Creation) :
    creation.frame sealing = (creation.encryption sealing.kdf).map fun sealed =>
      creation.header ++ sealing.encrypt sealed.key sealed.body sealed.associated sealed.nonce := by
  rw [frame, create_frame, encryption, header]
  simp only [bind, Except.bind, pure, Except.pure]
  cases validate_context creation.context with
  | error raised => rfl
  | ok context =>
    simp only
    cases calculate_capacity context with
    | error raised => rfl
    | ok capacity =>
      simp only
      cases message_bytes creation.message capacity with
      | error raised => rfl
      | ok encoded =>
        simp only
        cases password_bytes creation.password with
        | error raised => rfl
        | ok password_data =>
          simp only
          cases struct_pack 2 encoded.length with
          | error raised => rfl
          | ok length =>
            simp only
            cases authenticated_context (PROTOCOL_PREFIX ++ creation.salt ++ creation.nonce)
              context with
            | error raised => rfl
            | ok associated => rfl

/-- An ideal authenticated encryption, of which the calls in `history` are all the uses:
decryption succeeds only for a ciphertext produced under the same key, nonce and associated data,
and returns its plaintext. -/
structure Sealing.Ideal (sealing : Sealing) (history : List Creation) : Prop where
  length_encrypt : ∀ key body associated nonce,
    (sealing.encrypt key body associated nonce).length = body.length + MACBYTES
  produced : ∀ key cipher associated nonce body,
    sealing.decrypt key cipher associated nonce = some body →
    ∃ creation ∈ history,
      creation.encryption sealing.kdf
        = .ok { key := key, body := body, associated := associated, nonce := nonce } ∧
      cipher = sealing.encrypt key body associated nonce

/-! ### Accepted frames -/

/-- What `recover_frame` has checked when it returns a message. -/
lemma recover_frame_eq_ok {sealing : Sealing} {frame : List UInt8} {password : List CodePoint}
    {context : ProtocolContext} {message : List CodePoint}
    (h : recover_frame sealing frame password context = .ok message) :
    ∃ (hcontext : context.Valid) (password_data associated body : List UInt8),
      password_bytes password = .ok password_data ∧
      frame.length = (capacity_of context hcontext).frame_bytes ∧
      frame.take 5 = PROTOCOL_PREFIX ∧
      authenticated_context (frame.take HEADER_BYTES) context = .ok associated ∧
      sealing.decrypt (sealing.kdf password_data (((frame.take HEADER_BYTES).drop 5).take 16))
        (frame.drop HEADER_BYTES) associated (((frame.take HEADER_BYTES).drop 21).take 24)
        = some body ∧
      body_message (capacity_of context hcontext) body = some message := by
  have hsteps := h
  rw [recover_frame] at hsteps
  obtain ⟨_, hvalidate, hcapacity⟩ := bind_eq_ok.mp hsteps
  obtain ⟨hcontext, rfl⟩ := validate_context_eq_ok hvalidate
  rw [calculate_capacity_of_valid hcontext] at hcapacity
  obtain ⟨_, heq, hpassword⟩ := bind_eq_ok.mp hcapacity
  obtain rfl := Except.ok.inj heq
  obtain ⟨password_data, hdata, hguarded⟩ := bind_eq_ok.mp hpassword
  by_cases hguard : frame.length ≠ (capacity_of _ hcontext).frame_bytes ∨
      frame.take 5 ≠ PROTOCOL_PREFIX
  · simp only [if_pos hguard, bind, Except.bind] at hguarded
    cases hguarded
  obtain ⟨hlen, hstart⟩ := not_or.mp hguard
  obtain ⟨associated, hassociated⟩ :=
    authenticated_context_of_valid hcontext (frame.take HEADER_BYTES)
  rw [recover_frame_eq hcontext hdata (not_not.mp hlen) (not_not.mp hstart) hassociated] at h
  cases hbody : (sealing.decrypt
      (sealing.kdf password_data (((frame.take HEADER_BYTES).drop 5).take 16))
      (frame.drop HEADER_BYTES) associated (((frame.take HEADER_BYTES).drop 21).take 24)).bind
      (body_message (capacity_of _ hcontext)) with
  | none =>
    rw [hbody] at h
    cases h
  | some read =>
    rw [hbody] at h
    obtain rfl := Except.ok.inj h
    obtain ⟨body, hdecrypt, hmessage⟩ := Option.bind_eq_some_iff.mp hbody
    exact ⟨hcontext, password_data, associated, body, hdata, not_not.mp hlen, not_not.mp hstart,
      hassociated, hdecrypt, hmessage⟩

/-- What a call encrypts, piece by piece. -/
lemma Creation.encryption_eq_ok {kdf : List UInt8 → List UInt8 → List UInt8} {creation : Creation}
    {sealed : Encryption} (h : creation.encryption kdf = .ok sealed) :
    ∃ (hcontext : creation.context.Valid) (encoded password_data : List UInt8),
      Utf8.encode creation.message = some encoded ∧
      encoded.length ≤ (capacity_of creation.context hcontext).maximum_message_bytes ∧
      password_bytes creation.password = .ok password_data ∧
      sealed.key = kdf password_data creation.salt ∧
      sealed.body = frame_body (capacity_of creation.context hcontext)
        (big_endian 2 encoded.length) encoded ∧
      authenticated_context creation.header creation.context = .ok sealed.associated ∧
      sealed.nonce = creation.nonce := by
  rw [encryption] at h
  obtain ⟨context, hvalidate, hcapacity⟩ := bind_eq_ok.mp h
  obtain ⟨hcontext, rfl⟩ := validate_context_eq_ok hvalidate
  rw [calculate_capacity_of_valid hcontext] at hcapacity
  obtain ⟨_, heq, hmessage⟩ := bind_eq_ok.mp hcapacity
  obtain rfl := Except.ok.inj heq
  obtain ⟨encoded, hencoded, hdata⟩ := bind_eq_ok.mp hmessage
  obtain ⟨hencode, hfits⟩ := message_bytes_eq_ok hencoded
  obtain ⟨password_data, hpassword, hpack⟩ := bind_eq_ok.mp hdata
  obtain ⟨length, hlength, hassociate⟩ := bind_eq_ok.mp hpack
  obtain ⟨-, rfl⟩ := struct_pack_eq_ok hlength
  obtain ⟨associated, hassociated, hreturn⟩ := bind_eq_ok.mp hassociate
  obtain rfl := pure_eq_ok.mp hreturn
  exact ⟨hcontext, encoded, password_data, hencode, hfits, hpassword, rfl, rfl, hassociated, rfl⟩

lemma Creation.length_header (creation : Creation) : creation.header.length = HEADER_BYTES :=
  StegoLab.length_header creation.salt_length creation.nonce_length

/-- What a frame that was accepted with `password` says about a call of `create_frame`. -/
structure Creation.Accounts (creation : Creation) (sealing : Sealing) (frame : List UInt8)
    (password message : List CodePoint) (context : ProtocolContext) : Prop where
  frame_eq : creation.frame sealing = .ok frame
  message_eq : creation.message = message
  context_eq : creation.context = context
  header_eq : creation.header = frame.take HEADER_BYTES
  /-- Both passwords derive one key, and what it decrypts is the body of the returned message. -/
  body_eq : ∃ password_data created_data capacity encoded associated,
    password_bytes password = .ok password_data ∧
    password_bytes creation.password = .ok created_data ∧
    sealing.kdf created_data creation.salt = sealing.kdf password_data creation.salt ∧
    calculate_capacity context = .ok capacity ∧ message_bytes message capacity = .ok encoded ∧
    authenticated_context (frame.take HEADER_BYTES) context = .ok associated ∧
    sealing.decrypt (sealing.kdf password_data creation.salt) (frame.drop HEADER_BYTES) associated
      creation.nonce = some (frame_body capacity (big_endian 2 encoded.length) encoded)

/-- An accepted frame was created for the message that is returned, under the same header, context
and derived key. -/
lemma exists_creation {sealing : Sealing} {history : List Creation}
    (hideal : sealing.Ideal history) {frame : List UInt8} {password message : List CodePoint}
    {context : ProtocolContext}
    (h : recover_frame sealing frame password context = .ok message) :
    ∃ creation ∈ history, creation.Accounts sealing frame password message context := by
  obtain ⟨hcontext, password_data, associated, body, hpassword, hlen, -, hassociated, hdecrypt,
    hmessage⟩ := recover_frame_eq_ok h
  obtain ⟨creation, hmem, hencryption, hcipher⟩ := hideal.produced _ _ _ _ _ hdecrypt
  obtain ⟨hcreated, encoded, created_data, hencode, hfits, hcreated_data, hkey, hbody,
    hcreated_associated, hnonce⟩ := creation.encryption_eq_ok hencryption
  have hheader_length : (frame.take HEADER_BYTES).length = HEADER_BYTES := by
    have := message_fits_frame hcontext
    rw [List.length_take, HEADER_BYTES]
    omega
  obtain ⟨hheader, hidentifier, hwidth, hheight⟩ := authenticated_context_inj
    (creation.length_header.trans hheader_length.symm) hcreated_associated hassociated
  obtain rfl : creation.context = context := hcreated.ext hcontext hidentifier hwidth hheight
  have hsalt : ((frame.take HEADER_BYTES).drop 5).take 16 = creation.salt := by
    rw [← hheader]
    exact header_salt creation.salt_length
  simp only at hkey hbody hnonce
  have hread := body_message_frame_body hencode hfits
  rw [← hbody, hmessage] at hread
  have hmessage_eq : creation.message = message := (Option.some_inj.mp hread).symm
  rw [hmessage_eq] at hencode
  refine ⟨creation, hmem, ?_, hmessage_eq, rfl, hheader, ?_⟩
  · rw [creation.frame_eq_encryption, hencryption, Except.map, ← hcipher, hheader,
      List.take_append_drop]
  · refine ⟨password_data, created_data, _, encoded, associated, hpassword, hcreated_data, ?_,
      calculate_capacity_of_valid hcontext, message_bytes_of_encode hencode hfits, hassociated, ?_⟩
    · rw [← hkey, hsalt]
    · rw [hnonce, hsalt, hbody] at hdecrypt
      exact hdecrypt

/-- Under an ideal encryption, a frame is accepted only when it was created for the message that is
returned, with a password of the same derived key and for the same context. The associated data
determine the header and the context, and every accepted body is the body that a frame of the
returned message encrypts. -/
theorem accepted_frame_authentic (sealing : Sealing) (history : List Creation)
    (hideal : sealing.Ideal history) :
    (∀ (frame : List UInt8) (password message : List CodePoint) (context : ProtocolContext),
      recover_frame sealing frame password context = .ok message →
      ∃ creation ∈ history, creation.Accounts sealing frame password message context) ∧
    (∀ (header header' : List UInt8) (context context' : ProtocolContext)
      (associated : List UInt8), header.length = HEADER_BYTES → header'.length = HEADER_BYTES →
      authenticated_context header context = .ok associated →
      authenticated_context header' context' = .ok associated →
      header = header' ∧ context.compatibility_identifier = context'.compatibility_identifier ∧
        context.width = context'.width ∧ context.height = context'.height) ∧
    (∀ (context : ProtocolContext) (capacity : PayloadCapacity) (body : List UInt8)
      (message : List CodePoint), calculate_capacity context = .ok capacity →
      body.length + MACBYTES + HEADER_BYTES = capacity.frame_bytes →
      body_message capacity body = some message →
      ∃ encoded, message_bytes message capacity = .ok encoded ∧
        body = frame_body capacity (big_endian 2 encoded.length) encoded) := by
  refine ⟨fun frame password message context h => exists_creation hideal h, ?_, ?_⟩
  · intro header header' context context' associated hlen hlen' h h'
    exact authenticated_context_inj (hlen.trans hlen'.symm) h h'
  · intro context capacity body message hcapacity hlen h
    have hvalid : context.Valid := by
      by_contra hnot
      rw [calculate_capacity, dif_neg hnot] at hcapacity
      cases hcapacity
    obtain rfl := Except.ok.inj ((calculate_capacity_of_valid hvalid).symm.trans hcapacity)
    obtain ⟨encoded, hencode, hfits, hbody⟩ :=
      body_message_eq_some (message_fits_frame hvalid) hlen h
    exact ⟨encoded, message_bytes_of_encode hencode hfits, hbody⟩

/-! ### A remembered frame -/

/-- A sealing that opens what one call encrypted, and nothing else. -/
def remembering_sealing (creation : Creation) : Sealing where
  kdf password _ := password
  encrypt _ body _ _ := body ++ List.replicate MACBYTES 0
  decrypt key cipher associated nonce :=
    match creation.encryption fun password _ => password with
    | .error _ => none
    | .ok sealed =>
      if cipher = sealed.body ++ List.replicate MACBYTES 0 ∧ key = sealed.key ∧
        associated = sealed.associated ∧ nonce = sealed.nonce then some sealed.body else none

lemma remembering_sealing_ideal (creation : Creation) :
    (remembering_sealing creation).Ideal [creation] where
  length_encrypt _ _ _ _ := by simp [remembering_sealing]
  produced key cipher associated nonce body h := by
    simp only [remembering_sealing] at h
    cases hsealed : creation.encryption fun password _ => password with
    | error raised =>
      rw [hsealed] at h
      cases h
    | ok sealed =>
      rw [hsealed] at h
      simp only at h
      split_ifs at h with hsame
      obtain ⟨hcipher, rfl, rfl, rfl⟩ := hsame
      obtain rfl := Option.some_inj.mp h
      exact ⟨creation, List.mem_singleton_self _, hsealed, hcipher⟩

/-- The frame of the remembered call is accepted with its own password. -/
lemma recover_frame_remembered {creation : Creation} {sealed : Encryption}
    (h : creation.encryption (fun password _ => password) = .ok sealed) :
    recover_frame (remembering_sealing creation)
        (creation.header ++ (sealed.body ++ List.replicate MACBYTES 0)) creation.password
        creation.context = .ok creation.message := by
  obtain ⟨hcontext, encoded, password_data, hencode, hfits, hpassword, hkey, hbody, hassociated,
    hnonce⟩ := creation.encryption_eq_ok h
  set cipher := sealed.body ++ List.replicate MACBYTES 0 with hcipher
  have htake : (creation.header ++ cipher).take HEADER_BYTES = creation.header :=
    take_header creation.salt_length creation.nonce_length
  have hdrop : (creation.header ++ cipher).drop HEADER_BYTES = cipher :=
    drop_header creation.salt_length creation.nonce_length
  have hsalt : (creation.header.drop 5).take 16 = creation.salt :=
    header_salt creation.salt_length
  have hnonce' : (creation.header.drop 21).take 24 = creation.nonce :=
    header_nonce creation.salt_length creation.nonce_length
  have hlen : (creation.header ++ cipher).length
      = (capacity_of creation.context hcontext).frame_bytes := by
    rw [List.length_append, creation.length_header, hcipher, List.length_append,
      List.length_replicate, hbody, Nat.add_comm]
    exact length_frame_body (message_fits_frame hcontext) hfits
  have hstart : (creation.header ++ cipher).take 5 = PROTOCOL_PREFIX := by
    rw [Creation.header, List.append_assoc, List.append_assoc]
    rfl
  have hdecrypt : (remembering_sealing creation).decrypt
      ((remembering_sealing creation).kdf password_data creation.salt) cipher sealed.associated
      creation.nonce = some sealed.body := by
    simp only [remembering_sealing, h, true_and]
    exact if_pos ⟨hcipher, hkey.symm, hnonce.symm⟩
  rw [recover_frame_eq hcontext hpassword hlen hstart (by rw [htake]; exact hassociated), htake,
    hdrop, hsalt, hnonce', hdecrypt, Option.bind_some, hbody,
    body_message_frame_body hencode hfits]

/-- The call that hides "hi" in the smallest image. -/
def creation_hi : Creation where
  message := [.scalar 'h', .scalar 'i']
  password := [.scalar 'p']
  context := ⟨512, 512, 1, "test_only_v1", "public_fixture_v1"⟩
  salt := List.replicate 16 7
  nonce := List.replicate 24 9
  salt_length := rfl
  nonce_length := rfl

theorem accepted_frame_hi :
    ∃ frame, recover_frame (remembering_sealing creation_hi) frame [.scalar 'p']
        ⟨512, 512, 1, "test_only_v1", "public_fixture_v1"⟩ = .ok [.scalar 'h', .scalar 'i'] ∧
      creation_hi.Accounts (remembering_sealing creation_hi) frame [.scalar 'p']
        [.scalar 'h', .scalar 'i'] ⟨512, 512, 1, "test_only_v1", "public_fixture_v1"⟩ := by
  have hencryption : ∃ sealed, creation_hi.encryption (fun password _ => password) = .ok sealed :=
    exists_of_isOk (by decide)
  obtain ⟨sealed, hsealed⟩ := hencryption
  have hrecover := recover_frame_remembered hsealed
  obtain ⟨hauthentic, -, -⟩ := accepted_frame_authentic (remembering_sealing creation_hi)
    [creation_hi] (remembering_sealing_ideal creation_hi)
  obtain ⟨creation, hmem, haccounts⟩ := hauthentic _ _ _ _ hrecover
  obtain rfl := List.mem_singleton.mp hmem
  exact ⟨_, hrecover, haccounts⟩

end StegoLab
