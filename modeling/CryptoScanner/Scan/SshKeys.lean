import Mathlib.Data.FinEnum
import Mathlib.Data.Nat.Digits.Defs
import Mathlib.Data.Nat.Size
import CryptoScanner.Library.Fallible
import CryptoScanner.Python.Base64
import CryptoScanner.Python.Text

/-!
# SSH public keys

The reader of public key blobs, in the network scanner and in the agent.  Both read strings with a
length in front of them, and return nothing where a blob is cut off or is no text.
-/

namespace CryptoScanner.Scan

open Python

/-! ## 1. Strings on the wire -/

inductive SshError
  | value (message : String)
  | unicodeDecode
  /-- Nobody catches `struct.error` and `IndexError`. -/
  | read (error : ReadError)
  deriving DecidableEq, Repr

def readSshString (data : Bytes) (offset : Nat) : Except SshError (Bytes × Nat) :=
  if data.length < offset + 4 then .error (.value "truncated ssh string")
  else do
    let header ← (slice data offset (offset + 4)).mapError .read
    let length ← (unpackI header).mapError .read
    let start := offset + 4
    let stop := start + length
    if data.length < stop then .error (.value "truncated ssh string body")
    else do
      let body ← (slice data start stop).mapError .read
      return (body, stop)

def readSshMpint (data : Bytes) (offset : Nat) : Except SshError (Nat × Nat) := do
  let (raw, offset) ← readSshString data offset
  return (intFromBytes raw, offset)

def decodeAscii (data : Bytes) : Except SshError (List Char) :=
  if ∀ byte ∈ data, byte < 128 then .ok (data.map fun byte => Char.ofNat byte.toNat)
  else .error .unicodeDecode

/-- `_normalize_ssh_curve`, `normalize_ssh_curve` -/
def normalizeSshCurve (curve : List Char) : List Char :=
  (([("nistp256".toList, "P256".toList), ("nistp384".toList, "P384".toList),
    ("nistp521".toList, "P521".toList)] : List (List Char × List Char)).lookup curve).getD curve

/-! ## 2. The two readers -/

/-- The dictionary of `_parse_ssh_public_key_blob`. -/
structure SshKeyInfo where
  algorithm : List Char
  algorithmFamily : List Char
  deriving DecidableEq, Repr

def catchValueError {α : Type} : Except SshError (Option α) → Except SshError (Option α)
  | .error (.value _) => .ok none
  | .error .unicodeDecode => .ok none
  | .error (.read error) => .error (.read error)
  | .ok value => .ok value

/-- The body of `_parse_ssh_public_key_blob`. -/
def sshPublicKeyInfo (keyType : List Char) (blob : Bytes) :
    Except SshError (Option SshKeyInfo) := do
  let (algorithm, offset) ← readSshString blob 0
  let algorithmText ← decodeAscii algorithm
  if algorithmText = "ssh-rsa".toList ∨ "rsa-".toList <+: keyType then do
    let (_, offset) ← readSshMpint blob offset
    let (modulus, _) ← readSshMpint blob offset
    return some
      { algorithm := "RSA-".toList ++ (toString modulus.size).toList
        algorithmFamily := "RSA".toList }
  else if "ecdsa-sha2-".toList <+: algorithmText then do
    let (curve, _) ← readSshString blob offset
    let curveText ← decodeAscii curve
    return some
      { algorithm := "ECDSA-".toList ++ normalizeSshCurve curveText
        algorithmFamily := "ECDSA".toList }
  else if algorithmText = "ssh-ed25519".toList then
    return some { algorithm := "Ed25519".toList, algorithmFamily := "EdDSA".toList }
  else return none

def parseSshPublicKeyBlob (keyType : List Char) (blob : Bytes) :
    Except SshError (Option SshKeyInfo) := catchValueError (sshPublicKeyInfo keyType blob)

end CryptoScanner.Scan

namespace CryptoScanner.HostScanners

open Python Scan

/-- The second `try` block of `algorithm_from_ssh_key`. -/
def sshBlobAlgorithm (keyType : List Char) (blob : Bytes) :
    Except SshError (Option (List Char)) := do
  let (algorithm, offset) ← readSshString blob 0
  let algorithmText ← decodeAscii algorithm
  if algorithmText = "ssh-rsa".toList ∨ "rsa-".toList <+: keyType then do
    let (_, offset) ← readSshMpint blob offset
    let (modulus, _) ← readSshMpint blob offset
    return some ("RSA-".toList ++ (toString modulus.size).toList)
  else if "ecdsa-sha2-".toList <+: algorithmText then do
    let (curve, _) ← readSshString blob offset
    let curveText ← decodeAscii curve
    return some ("ECDSA-".toList ++ normalizeSshCurve curveText)
  else if algorithmText = "ssh-ed25519".toList then return some "Ed25519".toList
  else return none

def algorithmFromSshKey (keyType b64Blob : List Char) : Except SshError (Option (List Char)) :=
  -- `encode("ascii")` raises a `ValueError`, as the decoder does
  match if ∀ c ∈ b64Blob, isAscii c then b64decode b64Blob else none with
  | none => .ok none
  | some blob => catchValueError (sshBlobAlgorithm keyType blob)

end CryptoScanner.HostScanners

namespace CryptoScanner.Scan

open Python HostScanners
open Library (ok_bind mapError_ok)

/-! ## 3. No exception is left -/

/-- An exception that the readers catch. -/
def SshError.Caught : SshError → Prop
  | value _ | unicodeDecode => True
  | read _ => False

def RaisesCaught {α : Type} (x : Except SshError α) : Prop := ∀ e, x = .error e → e.Caught

theorem RaisesCaught.ok {α : Type} (a : α) : RaisesCaught (.ok a) := nofun

theorem RaisesCaught.bind {α β : Type} {x : Except SshError α} {f : α → Except SshError β}
    (hx : RaisesCaught x) (hf : ∀ a, RaisesCaught (f a)) : RaisesCaught (x >>= f) := by
  intro e he
  cases x with
  | error e' => exact hx e (congrArg Except.error (Except.error.inj he))
  | ok a => exact hf a e he

theorem catchValueError_ok {α : Type} {x : Except SshError (Option α)} (h : RaisesCaught x) :
    ∃ value, catchValueError x = .ok value := by
  rcases x with e | value
  · cases e with
    | value message => exact ⟨none, rfl⟩
    | unicodeDecode => exact ⟨none, rfl⟩
    | read error => exact (h _ rfl).elim
  · exact ⟨value, rfl⟩

/-- What is read: a length of four bytes, and as many bytes after it. -/
theorem readSshString_eq (data : Bytes) (offset : Nat) :
    (∃ message, readSshString data offset = .error (.value message)) ∨
      ∃ length, unpackI ((data.drop offset).take 4) = .ok length ∧
        offset + 4 + length ≤ data.length ∧
        readSshString data offset =
          .ok ((data.drop (offset + 4)).take length, offset + 4 + length) := by
  unfold readSshString
  by_cases hshort : data.length < offset + 4
  · exact .inl ⟨_, if_pos hshort⟩
  · obtain ⟨b₁, b₂, b₃, b₄, rest, hdrop⟩ := exists_four (Nat.le_of_not_lt hshort)
    have hheader : (data.drop offset).take 4 = [b₁, b₂, b₃, b₄] := by
      rw [hdrop]
      rfl
    obtain ⟨length, hlength⟩ : ∃ length, unpackI [b₁, b₂, b₃, b₄] = .ok length := ⟨_, rfl⟩
    rw [if_neg hshort, slice_cursor (Nat.le_of_not_lt hshort), hheader, mapError_ok, ok_bind,
      hlength, mapError_ok, ok_bind]
    by_cases hbody : data.length < offset + 4 + length
    · exact .inl ⟨_, if_pos hbody⟩
    · refine .inr ⟨length, rfl, Nat.le_of_not_lt hbody, ?_⟩
      rw [if_neg hbody, slice_cursor (Nat.le_of_not_lt hbody)]
      rfl

theorem readSshString_caught (data : Bytes) (offset : Nat) :
    RaisesCaught (readSshString data offset) := by
  rcases readSshString_eq data offset with ⟨message, h⟩ | ⟨length, -, -, h⟩
  · rw [h]
    rintro e ⟨⟩
    exact trivial
  · rw [h]
    exact .ok _

theorem readSshMpint_caught (data : Bytes) (offset : Nat) :
    RaisesCaught (readSshMpint data offset) :=
  (readSshString_caught data offset).bind fun _ => .ok _

theorem decodeAscii_caught (data : Bytes) : RaisesCaught (decodeAscii data) := by
  intro e he
  unfold decodeAscii at he
  split at he
  · cases he
  · cases he
    exact trivial

theorem sshPublicKeyInfo_caught (keyType : List Char) (blob : Bytes) :
    RaisesCaught (sshPublicKeyInfo keyType blob) := by
  refine (readSshString_caught blob 0).bind fun (algorithm, offset) => ?_
  refine (decodeAscii_caught algorithm).bind fun algorithmText => ?_
  dsimp only
  split
  · exact (readSshMpint_caught _ _).bind fun _ => (readSshMpint_caught _ _).bind fun _ => .ok _
  · split
    · exact (readSshString_caught _ _).bind fun _ => (decodeAscii_caught _).bind fun _ => .ok _
    · split
      · exact .ok _
      · exact .ok _

/-! ## 4. Keys on the wire -/

/-- The length of a string is a number of four bytes. -/
structure OnWire (data : Bytes) : Prop where
  length_lt : data.length < 2 ^ 32

def sshString (data : Bytes) : Bytes := packI data.length ++ data

theorem sshString_length (data : Bytes) : (sshString data).length = 4 + data.length := by
  rw [sshString, List.length_append]
  rfl

theorem readSshString_sshString {data : Bytes} (h : OnWire data) (front back : Bytes) :
    readSshString (front ++ (sshString data ++ back)) front.length =
      .ok (data, front.length + (sshString data).length) := by
  have hbytes : (front ++ (sshString data ++ back)).drop front.length =
      packI data.length ++ (data ++ back) := by
    rw [List.drop_left, sshString, List.append_assoc]
  have hlength : (front ++ (sshString data ++ back)).length =
      front.length + 4 + data.length + back.length := by
    rw [List.length_append, List.length_append, sshString_length]
    omega
  have hbody : (front ++ (sshString data ++ back)).drop (front.length + 4) = data ++ back := by
    rw [← List.drop_drop, hbytes]
    rfl
  have hheader : (packI data.length ++ (data ++ back)).take 4 = packI data.length := rfl
  unfold readSshString
  rw [if_neg (by omega), slice_cursor (by omega), hbytes, hheader, mapError_ok, ok_bind,
    unpackI_packI h.length_lt, mapError_ok, ok_bind]
  rw [if_neg (by omega), slice_cursor (by omega), hbody, List.take_left, sshString_length,
    ← Nat.add_assoc]
  rfl

theorem readSshMpint_eq {data raw : Bytes} {offset next : Nat}
    (h : readSshString data offset = .ok (raw, next)) :
    readSshMpint data offset = .ok (intFromBytes raw, next) := by
  rw [readSshMpint, h]
  rfl

/-- The digits of a number in base 256, the most significant first. -/
def bigEndian (n : Nat) : Bytes := (Nat.digits 256 n).reverse.map UInt8.ofNat

theorem intFromBytes_bigEndian (n : Nat) : intFromBytes (bigEndian n) = n := by
  have hdigits : ∀ digits : List Nat, (∀ d ∈ digits, d < 256) →
      intFromBytes (digits.reverse.map UInt8.ofNat) = Nat.ofDigits 256 digits := by
    intro digits hlt
    induction digits with
    | nil => rfl
    | cons d digits ih =>
        have hd : (UInt8.ofNat d).toNat = d :=
          UInt8.toNat_ofNat_of_lt' (hlt d List.mem_cons_self)
        have hrest := ih fun other hother => hlt other (List.mem_cons_of_mem _ hother)
        rw [intFromBytes] at hrest ⊢
        rw [List.reverse_cons, List.map_append, List.foldl_append, hrest, Nat.ofDigits_cons]
        change Nat.ofDigits 256 digits * 256 + (UInt8.ofNat d).toNat = _
        rw [hd, Nat.mul_comm, Nat.add_comm]
  rw [bigEndian, hdigits _ fun d hd => Nat.digits_lt_base (by decide) hd, Nat.ofDigits_digits]

/-- A number that is not negative: a zero byte stands before a first bit that is set. -/
def mpintBytes (n : Nat) : Bytes :=
  match bigEndian n with
  | [] => []
  | first :: rest => if 128 ≤ first then 0 :: first :: rest else first :: rest

theorem intFromBytes_mpintBytes (n : Nat) : intFromBytes (mpintBytes n) = n := by
  have hvalue := intFromBytes_bigEndian n
  unfold mpintBytes
  split
  next hbytes =>
    rw [hbytes] at hvalue
    exact hvalue
  next first rest hbytes =>
    rw [hbytes] at hvalue
    split
    · have hzero : intFromBytes (0 :: first :: rest) = intFromBytes (first :: rest) := by
        simp [intFromBytes]
      rw [hzero, hvalue]
    · exact hvalue

theorem readSshMpint_sshString {n : Nat} (h : OnWire (mpintBytes n)) (front back : Bytes) :
    readSshMpint (front ++ (sshString (mpintBytes n) ++ back)) front.length =
      .ok (n, front.length + (sshString (mpintBytes n)).length) := by
  rw [readSshMpint_eq (readSshString_sshString h front back), intFromBytes_mpintBytes]

def asciiBytes (text : List Char) : Bytes := text.map fun c => UInt8.ofNat c.toNat

theorem decodeAscii_asciiBytes {text : List Char} (h : ∀ c ∈ text, isAscii c = true) :
    decodeAscii (asciiBytes text) = .ok text := by
  have hbyte : ∀ c ∈ text, (UInt8.ofNat c.toNat).toNat = c.toNat ∧ c.toNat < 128 := by
    intro c hc
    have hlt : c.toNat < 128 := of_decide_eq_true (h c hc)
    exact ⟨UInt8.toNat_ofNat_of_lt' (by change c.toNat < 256; omega), hlt⟩
  have hall : ∀ byte ∈ asciiBytes text, byte < 128 := by
    intro byte hbyte'
    obtain ⟨c, hc, rfl⟩ := List.mem_map.mp hbyte'
    rw [UInt8.lt_iff_toNat_lt, (hbyte c hc).1]
    exact (hbyte c hc).2
  have hback : ∀ c ∈ text, Char.ofNat (UInt8.ofNat c.toNat).toNat = c := by
    intro c hc
    rw [(hbyte c hc).1, Char.ofNat_toNat]
  rw [decodeAscii, if_pos hall, asciiBytes, List.map_map]
  exact congrArg Except.ok ((List.map_congr_left hback).trans (List.map_id' text))

inductive SshPublicKey
  | rsa (exponent modulus : Nat) (exponent_onWire : OnWire (mpintBytes exponent))
      (modulus_onWire : OnWire (mpintBytes modulus))
  | ecdsa (curve : List Char) (point : Bytes) (ascii : ∀ c ∈ curve, isAscii c = true)
      (name_onWire : OnWire (asciiBytes ("ecdsa-sha2-".toList ++ curve)))
  | ed25519 (key : Bytes) (length_eq : key.length = 32)

namespace SshPublicKey

def name : SshPublicKey → List Char
  | rsa .. => "ssh-rsa".toList
  | ecdsa curve .. => "ecdsa-sha2-".toList ++ curve
  | ed25519 .. => "ssh-ed25519".toList

def fields : SshPublicKey → Bytes
  | rsa exponent modulus _ _ => sshString (mpintBytes exponent) ++ sshString (mpintBytes modulus)
  | ecdsa curve point _ _ => sshString (asciiBytes curve) ++ sshString point
  | ed25519 key _ => sshString key

def blob (key : SshPublicKey) : Bytes := sshString (asciiBytes key.name) ++ key.fields

def info : SshPublicKey → SshKeyInfo
  | rsa _ modulus _ _ => ⟨"RSA-".toList ++ (toString modulus.size).toList, "RSA".toList⟩
  | ecdsa curve _ _ _ => ⟨"ECDSA-".toList ++ normalizeSshCurve curve, "ECDSA".toList⟩
  | ed25519 _ _ => ⟨"Ed25519".toList, "EdDSA".toList⟩

/-- A key type that calls only RSA keys RSA keys, such as `rsa-sha2-512`. -/
def Announced (keyType : List Char) : SshPublicKey → Prop
  | rsa .. => True
  | _ => ¬ "rsa-".toList <+: keyType

theorem name_ascii (key : SshPublicKey) : ∀ c ∈ key.name, isAscii c = true := by
  cases key with
  | rsa exponent modulus hexponent hmodulus =>
      have hall : ∀ c ∈ "ssh-rsa".toList, isAscii c = true := by decide
      exact hall
  | ecdsa curve point hascii hfits =>
      have hall : ∀ c ∈ "ecdsa-sha2-".toList, isAscii c = true := by decide
      intro c hc
      exact (List.mem_append.mp hc).elim (hall c) (hascii c)
  | ed25519 data hlength =>
      have hall : ∀ c ∈ "ssh-ed25519".toList, isAscii c = true := by decide
      exact hall

theorem name_onWire (key : SshPublicKey) : OnWire (asciiBytes key.name) := by
  cases key with
  | rsa exponent modulus hexponent hmodulus =>
      have hlength : (asciiBytes "ssh-rsa".toList).length = 7 := by decide
      exact ⟨hlength.trans_lt (by norm_num)⟩
  | ecdsa curve point hascii hname => exact hname
  | ed25519 data hdata =>
      have hlength : (asciiBytes "ssh-ed25519".toList).length = 11 := by decide
      exact ⟨hlength.trans_lt (by norm_num)⟩

/-- What the readers do once they have read the name of a key. -/
theorem sshPublicKeyInfo_blob (key : SshPublicKey) (keyType : List Char) :
    sshPublicKeyInfo keyType key.blob =
      let offset := (sshString (asciiBytes key.name)).length
      if key.name = "ssh-rsa".toList ∨ "rsa-".toList <+: keyType then do
        let (_, offset) ← readSshMpint key.blob offset
        let (modulus, _) ← readSshMpint key.blob offset
        return some
          { algorithm := "RSA-".toList ++ (toString modulus.size).toList
            algorithmFamily := "RSA".toList }
      else if "ecdsa-sha2-".toList <+: key.name then do
        let (curve, _) ← readSshString key.blob offset
        let curveText ← decodeAscii curve
        return some
          { algorithm := "ECDSA-".toList ++ normalizeSshCurve curveText
            algorithmFamily := "ECDSA".toList }
      else if key.name = "ssh-ed25519".toList then
        return some { algorithm := "Ed25519".toList, algorithmFamily := "EdDSA".toList }
      else return none := by
  have hname := readSshString_sshString key.name_onWire [] key.fields
  rw [List.nil_append, List.length_nil, Nat.zero_add] at hname
  rw [sshPublicKeyInfo, blob, hname]
  simp only [bind, Except.bind, decodeAscii_asciiBytes key.name_ascii]

theorem parse_rsa (exponent modulus : Nat) (hexponent : OnWire (mpintBytes exponent))
    (hmodulus : OnWire (mpintBytes modulus)) (keyType : List Char) :
    sshPublicKeyInfo keyType (rsa exponent modulus hexponent hmodulus).blob =
      .ok (some (rsa exponent modulus hexponent hmodulus).info) := by
  have hfirst := readSshMpint_sshString hexponent (sshString (asciiBytes "ssh-rsa".toList))
    (sshString (mpintBytes modulus))
  have hsecond := readSshMpint_sshString hmodulus
    (sshString (asciiBytes "ssh-rsa".toList) ++ sshString (mpintBytes exponent)) []
  rw [List.append_nil, List.append_assoc, List.length_append] at hsecond
  have hblob : (rsa exponent modulus hexponent hmodulus).blob =
      sshString (asciiBytes "ssh-rsa".toList) ++
        (sshString (mpintBytes exponent) ++ sshString (mpintBytes modulus)) := rfl
  have hname : (rsa exponent modulus hexponent hmodulus).name = "ssh-rsa".toList := rfl
  rw [sshPublicKeyInfo_blob, hblob, hname]
  dsimp only
  rw [if_pos (.inl rfl)]
  rw [hfirst, ok_bind]
  dsimp only
  rw [hsecond]
  rfl

theorem parse_ecdsa {keyType curve : List Char} {point : Bytes}
    (hascii : ∀ c ∈ curve, isAscii c = true)
    (honWire : OnWire (asciiBytes ("ecdsa-sha2-".toList ++ curve)))
    (h : ¬ "rsa-".toList <+: keyType) :
    sshPublicKeyInfo keyType (ecdsa curve point hascii honWire).blob =
      .ok (some (ecdsa curve point hascii honWire).info) := by
  have hcurve : OnWire (asciiBytes curve) := by
    have hlength := honWire.length_lt
    rw [asciiBytes, List.length_map, List.length_append] at hlength
    refine ⟨?_⟩
    rw [asciiBytes, List.length_map]
    exact (Nat.le_add_left _ _).trans_lt hlength
  have hread := readSshString_sshString hcurve
    (sshString (asciiBytes ("ecdsa-sha2-".toList ++ curve))) (sshString point)
  have hblob : (ecdsa curve point hascii honWire).blob =
      sshString (asciiBytes ("ecdsa-sha2-".toList ++ curve)) ++
        (sshString (asciiBytes curve) ++ sshString point) := rfl
  have hname : (ecdsa curve point hascii honWire).name = "ecdsa-sha2-".toList ++ curve := rfl
  have hne : "ecdsa-sha2-".toList ++ curve ≠ "ssh-rsa".toList := by
    intro heq
    cases congrArg List.head? heq
  rw [sshPublicKeyInfo_blob, hblob, hname]
  dsimp only
  rw [if_neg (not_or.mpr ⟨hne, h⟩), if_pos (List.prefix_append _ _)]
  simp only [bind, Except.bind, hread, decodeAscii_asciiBytes hascii]
  rfl

theorem parse_ed25519 {keyType : List Char} {data : Bytes} (hlength : data.length = 32)
    (h : ¬ "rsa-".toList <+: keyType) :
    sshPublicKeyInfo keyType (ed25519 data hlength).blob =
      .ok (some (ed25519 data hlength).info) := by
  have hname : (ed25519 data hlength).name = "ssh-ed25519".toList := rfl
  rw [sshPublicKeyInfo_blob, hname]
  dsimp only
  rw [if_neg (not_or.mpr ⟨by decide, h⟩), if_neg (by decide), if_pos rfl]
  rfl

theorem parse_blob {key : SshPublicKey} {keyType : List Char} (h : key.Announced keyType) :
    parseSshPublicKeyBlob keyType key.blob = .ok (some key.info) := by
  have hinfo : sshPublicKeyInfo keyType key.blob = .ok (some key.info) := by
    cases key with
    | rsa exponent modulus hexponent hmodulus => exact parse_rsa _ _ _ _ _
    | ecdsa curve point hascii honWire => exact parse_ecdsa hascii honWire h
    | ed25519 data hlength => exact parse_ed25519 hlength h
  rw [parseSshPublicKeyBlob, hinfo, catchValueError]

end SshPublicKey

/-! ## 5. The agent's reader -/

theorem map_sshPublicKeyInfo (keyType : List Char) (blob : Bytes) :
    (sshPublicKeyInfo keyType blob).map (Option.map SshKeyInfo.algorithm) =
      sshBlobAlgorithm keyType blob := by
  unfold sshPublicKeyInfo sshBlobAlgorithm
  simp only [bind, Except.bind]
  cases readSshString blob 0 with
  | error e => rfl
  | ok read =>
      dsimp only
      cases decodeAscii read.1 with
      | error e => rfl
      | ok algorithmText =>
          dsimp only
          split
          · cases readSshMpint blob read.2 with
            | error e => rfl
            | ok exponent =>
                dsimp only
                cases readSshMpint blob exponent.2 with
                | error e => rfl
                | ok modulus => rfl
          · split
            · cases readSshString blob read.2 with
              | error e => rfl
              | ok curve =>
                  dsimp only
                  cases decodeAscii curve.1 with
                  | error e => rfl
                  | ok curveText => rfl
            · split
              · rfl
              · rfl

theorem map_catchValueError {α β : Type} (f : α → β) (x : Except SshError (Option α)) :
    (catchValueError x).map (Option.map f) = catchValueError (x.map (Option.map f)) := by
  rcases x with e | value
  · cases e with
    | value message => rfl
    | unicodeDecode => rfl
    | read error => rfl
  · rfl

theorem algorithmFromSshKey_b64encode (keyType : List Char) (blob : Bytes) :
    algorithmFromSshKey keyType (b64encode blob) =
      (parseSshPublicKeyBlob keyType blob).map (Option.map SshKeyInfo.algorithm) := by
  have hascii : ∀ c ∈ b64encode blob, isAscii c = true := by
    have halphabet : ∀ c ∈ base64Alphabet, isAscii c = true := by decide
    intro c hc
    rcases mem_b64encode hc with hmem | rfl
    · exact halphabet c hmem
    · decide
  rw [algorithmFromSshKey, if_pos hascii, b64decode_b64encode, parseSshPublicKeyBlob,
    map_catchValueError, map_sshPublicKeyInfo]

theorem exists_parse (keyType : List Char) (blob : Bytes) :
    ∃ info, parseSshPublicKeyBlob keyType blob = .ok info :=
  catchValueError_ok (sshPublicKeyInfo_caught keyType blob)

theorem exists_algorithm (keyType b64Blob : List Char) :
    ∃ algorithm, algorithmFromSshKey keyType b64Blob = .ok algorithm := by
  unfold algorithmFromSshKey
  split
  · exact ⟨none, rfl⟩
  next blob _ =>
    obtain ⟨info, hinfo⟩ := exists_parse keyType blob
    refine ⟨info.map SshKeyInfo.algorithm, ?_⟩
    rw [← map_sshPublicKeyInfo, ← map_catchValueError]
    exact congrArg (Except.map (Option.map SshKeyInfo.algorithm)) hinfo

/-- What is returned without an exception has the property. -/
def Returns {α : Type} (P : α → Prop) (x : Except SshError α) : Prop := ∀ a, x = .ok a → P a

theorem Returns.pure {α : Type} {P : α → Prop} {a : α} (h : P a) : Returns P (.ok a) := by
  rintro _ ⟨⟩
  exact h

theorem Returns.bind {α β : Type} {P : β → Prop} {x : Except SshError α}
    {f : α → Except SshError β} (hf : ∀ a, Returns P (f a)) : Returns P (x >>= f) := by
  intro b hb
  cases x with
  | error e => cases hb
  | ok a => exact hf a b hb

theorem algorithm_ne_nil {keyType b64Blob algorithm : List Char}
    (h : algorithmFromSshKey keyType b64Blob = .ok (some algorithm)) : algorithm ≠ [] := by
  have hnames : ∀ blob, Returns (fun name => ∀ algorithm ∈ name, algorithm ≠ [])
      (sshBlobAlgorithm keyType blob) := by
    intro blob
    refine Returns.bind fun (algorithm, offset) => Returns.bind fun algorithmText => ?_
    dsimp only
    split
    · refine Returns.bind fun _ => Returns.bind fun _ => Returns.pure ?_
      rintro _ ⟨⟩
      exact List.cons_ne_nil _ _
    · split
      · refine Returns.bind fun _ => Returns.bind fun _ => Returns.pure ?_
        rintro _ ⟨⟩
        exact List.cons_ne_nil _ _
      · split
        · refine Returns.pure ?_
          rintro _ ⟨⟩
          exact List.cons_ne_nil _ _
        · exact Returns.pure nofun
  unfold algorithmFromSshKey at h
  split at h
  · cases h
  next blob _ =>
    have hname := hnames blob
    cases hread : sshBlobAlgorithm keyType blob with
    | ok name =>
        rw [hread] at h
        exact hname name hread algorithm (Except.ok.inj h)
    | error e =>
        rw [hread] at h
        cases e with
        | value message => cases h
        | unicodeDecode => cases h
        | read error => cases h

/-- Every key is read back by both readers; on every other blob they return as well, and the agent
names the algorithm that the network scanner names. -/
theorem sshKeys_read :
    (∀ (key : SshPublicKey) (keyType : List Char), key.Announced keyType →
      parseSshPublicKeyBlob keyType key.blob = .ok (some key.info)) ∧
    (∀ (keyType : List Char) (blob : Bytes),
      ∃ info, parseSshPublicKeyBlob keyType blob = .ok info ∧
        algorithmFromSshKey keyType (b64encode blob) = .ok (info.map SshKeyInfo.algorithm)) ∧
    ∀ keyType b64Blob : List Char,
      ∃ algorithm, algorithmFromSshKey keyType b64Blob = .ok algorithm := by
  refine ⟨fun key keyType h => SshPublicKey.parse_blob h, fun keyType blob => ?_,
    exists_algorithm⟩
  obtain ⟨info, hinfo⟩ := exists_parse keyType blob
  refine ⟨info, hinfo, ?_⟩
  rw [algorithmFromSshKey_b64encode, hinfo]
  rfl

/-- The key of 32 zero bytes. -/
theorem zeroHostKey_read : ∃ key : SshPublicKey, key.blob.length = 51 ∧
    parseSshPublicKeyBlob "ssh-ed25519".toList key.blob = .ok (some key.info) ∧
    algorithmFromSshKey "ssh-ed25519".toList (b64encode key.blob) =
      .ok (some "Ed25519".toList) := by
  have hannounced : ¬ "rsa-".toList <+: "ssh-ed25519".toList := by decide
  have hread := sshKeys_read.1 (.ed25519 (List.replicate 32 0) List.length_replicate)
    "ssh-ed25519".toList hannounced
  refine ⟨_, by decide, hread, ?_⟩
  obtain ⟨info, hinfo, halgorithm⟩ := sshKeys_read.2.1 "ssh-ed25519".toList
    (SshPublicKey.ed25519 (List.replicate 32 0) List.length_replicate).blob
  rw [hread] at hinfo
  cases hinfo
  exact halgorithm

end CryptoScanner.Scan
