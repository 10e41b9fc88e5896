import CryptoScanner.Library.Join
import CryptoScanner.Python.Digits
import CryptoScanner.Python.IpText

/-!
# The texts of addresses and the hosts of networks

What `str` makes of an `ipaddress` address, the value that is read from it, and the addresses that
`hosts` lists.
-/

namespace CryptoScanner.Python

open Library

/-! ## 1. The texts -/

/-- `IPv4Address.__str__` -/
def ipv4Text (ip : Nat) : List Char :=
  ['.'].intercalate ([ip / 2 ^ 24 % 256, ip / 2 ^ 16 % 256, ip / 2 ^ 8 % 256, ip % 256].map decimalText)

def hexText (n : Nat) : List Char := Nat.toDigits 16 n

def hextets (ip : Nat) : List Nat :=
  [ip / 2 ^ 112 % 2 ^ 16, ip / 2 ^ 96 % 2 ^ 16, ip / 2 ^ 80 % 2 ^ 16, ip / 2 ^ 64 % 2 ^ 16,
    ip / 2 ^ 48 % 2 ^ 16, ip / 2 ^ 32 % 2 ^ 16, ip / 2 ^ 16 % 2 ^ 16, ip % 2 ^ 16]

/-- The loop of `_compress_hextets`: the start and the length of the first longest run of zeroes, by
those of the best run so far and of the run that is open. -/
def zeroRun (index : Nat) (best run : Nat × Nat) : List (List Char) → Nat × Nat
  | [] => best
  | hextet :: rest =>
      if hextet = ['0'] then
        let run := (if run.2 = 0 then index else run.1, run.2 + 1)
        zeroRun (index + 1) (if best.2 < run.2 then run else best) run rest
      else zeroRun (index + 1) best (0, 0) rest

def compressHextets (hextets : List (List Char)) : List (List Char) :=
  let (start, length) := zeroRun 0 (0, 0) (0, 0) hextets
  if 1 < length then
    (if start = 0 then [[]] else []) ++ hextets.take start ++ [] ::
      (hextets.drop (start + length) ++ if start + length = hextets.length then [[]] else [])
  else hextets

/-- `IPv6Address.__str__` of an address without a scope id. -/
def ipv6Text (ip : Nat) : List Char := [':'].intercalate (compressHextets ((hextets ip).map hexText))

/-- `str(address)`; only an IPv6 address has a scope id. -/
def addressText (scopeId : Option (List Char)) : IpAddress → List Char
  | .v4 ip => ipv4Text ip
  | .v6 ip => ipv6Text ip ++ (scopeId.map fun scopeId => '%' :: scopeId).getD []

/-- The texts of at most `limit` addresses from the number `first` on. -/
def addressRange (address : Nat → IpAddress) (limit first count : Nat) : List (List Char) :=
  (List.range' first (min count limit)).map fun ip => addressText none (address ip)

/-- The texts of the first `limit` addresses of `network.hosts()`.  An IPv4 network has a network
and a broadcast address that are no hosts, an IPv6 network only the former, and the shortest two
networks neither. -/
def IpNetwork.hosts (network : IpNetwork) (limit : Nat) : List (List Char) :=
  match network.networkAddress with
  | .v4 ip =>
      let size := 2 ^ (32 - network.prefixlen)
      let range := addressRange (fun n => .v4 (Fin.ofNat (2 ^ 32) n)) limit
      if network.prefixlen = 31 then range ip size
      else if network.prefixlen = 32 then [addressText none (.v4 ip)].take limit
      else range (ip + 1) (size - 2)
  | .v6 ip =>
      let size := 2 ^ (128 - network.prefixlen)
      let range := addressRange (fun n => .v6 (Fin.ofNat (2 ^ 128) n)) limit
      if network.prefixlen = 127 then range ip size
      else if network.prefixlen = 128 then [addressText network.scopeId (.v6 ip)].take limit
      else range (ip + 1) (size - 1)

/-! ## 2. Their values -/

theorem hexValue_append (text : List Char) (c : Char) : hexValue (text ++ [c]) =
    16 * hexValue text +
      (if c.isDigit then c.toNat - '0'.toNat else c.toLower.toNat - 'a'.toNat + 10) := by
  unfold hexValue
  rw [List.foldl_append]
  rfl

theorem hexValue_hexText (n : Nat) : hexValue (hexText n) = n := by
  have hdigit : ∀ d < 16, hexValue [Nat.digitChar d] = d := by decide +kernel
  -- the last digit is the remainder, and the digits before it are those of the quotient
  induction n using Nat.strongRecOn with
  | ind n ih =>
      unfold hexText at *
      by_cases hsmall : n < 16
      · rw [Nat.toDigits_of_lt_base hsmall, hdigit n hsmall]
      · have hlast := hdigit (n % 16) (Nat.mod_lt n (by decide))
        rw [Nat.toDigits_of_base_le (by decide) (by omega), hexValue_append,
          ih (n / 16) (by omega)]
        simp only [hexValue, List.foldl_cons, List.foldl_nil, Nat.mul_zero, Nat.zero_add] at hlast
        rw [hlast]
        omega

theorem hexText_ne_nil (n : Nat) : hexText n ≠ [] := Nat.toDigits_ne_nil

/-- A hexadecimal numeral has none of the separators of an address. -/
theorem ne_of_mem_hexText {n : Nat} {c : Char} (h : c ∈ hexText n) :
    c ≠ ':' ∧ c ≠ '%' ∧ c ≠ '.' := by
  have hdigit : ∀ d < 16, Nat.digitChar d ≠ ':' ∧ Nat.digitChar d ≠ '%' ∧
      Nat.digitChar d ≠ '.' := by decide +kernel
  induction n using Nat.strongRecOn with
  | ind n ih =>
      unfold hexText at *
      by_cases hsmall : n < 16
      · rw [Nat.toDigits_of_lt_base hsmall, List.mem_singleton] at h
        rw [h]
        exact hdigit n hsmall
      · rw [Nat.toDigits_of_base_le (by decide) (by omega), List.mem_append,
          List.mem_singleton] at h
        rcases h with h | h
        · exact ih (n / 16) (by omega) h
        · rw [h]
          exact hdigit (n % 16) (Nat.mod_lt n (by decide))

/-- From `start` on, `length` elements are zeroes. -/
def IsZeroRun (hextets : List (List Char)) (run : Nat × Nat) : Prop :=
  run.1 + run.2 ≤ hextets.length ∧ ∀ i, run.1 ≤ i → i < run.1 + run.2 → hextets[i]? = some ['0']

theorem isZeroRun_zeroRun {before rest : List (List Char)} {best run : Nat × Nat}
    (hbest : IsZeroRun (before ++ rest) best) (hrun : IsZeroRun (before ++ rest) run)
    (hopen : run.2 = 0 ∨ run.1 + run.2 = before.length) :
    IsZeroRun (before ++ rest) (zeroRun before.length best run rest) := by
  -- the invariant of the scan: the best run and the open one are runs of zeroes, and the open one
  -- ends where the scan stands
  induction rest generalizing before best run with
  | nil => exact hbest
  | cons hextet rest ih =>
      have hsplit : before ++ hextet :: rest = (before ++ [hextet]) ++ rest := by
        rw [List.append_assoc, List.singleton_append]
      have hlength : (before ++ [hextet]).length = before.length + 1 := List.length_append
      rw [zeroRun, ← hlength]
      rw [hsplit] at hbest hrun ⊢
      by_cases hzero : hextet = ['0']
      · rw [if_pos hzero]
        -- the open run goes on, or a new one starts here
        have hlonger : IsZeroRun ((before ++ [hextet]) ++ rest)
            (if run.2 = 0 then before.length else run.1, run.2 + 1) := by
          have hhere : ((before ++ [hextet]) ++ rest)[before.length]? = some ['0'] := by
            rw [← hsplit, List.getElem?_append_right (Nat.le_refl _), Nat.sub_self, hzero]
            rfl
          have hbound : before.length + 1 ≤ ((before ++ [hextet]) ++ rest).length := by
            rw [List.length_append, hlength]
            omega
          by_cases hempty : run.2 = 0
          · simp only [hempty, if_true]
            refine ⟨hbound, ?_⟩
            intro i hlow hhigh
            have heq : i = before.length := by simp only at hlow hhigh; omega
            rw [heq]
            exact hhere
          · have hend := hopen.resolve_left hempty
            simp only [hempty, if_false]
            refine ⟨by simp only; omega, ?_⟩
            intro i hlow hhigh
            simp only at hlow hhigh
            by_cases hlast : i = before.length
            · rw [hlast]
              exact hhere
            · exact hrun.2 i hlow (by omega)
        apply ih
        · by_cases hbetter : best.2 < run.2 + 1
          · rw [if_pos hbetter]
            exact hlonger
          · rw [if_neg hbetter]
            exact hbest
        · exact hlonger
        · right
          rw [hlength]
          by_cases hempty : run.2 = 0
          · simp only [hempty, if_true]
          · simp only [hempty, if_false]
            have := hopen.resolve_left hempty
            omega
      · rw [if_neg hzero]
        apply ih hbest
        · exact ⟨Nat.zero_le _, fun i _ hlt => absurd hlt (by simp)⟩
        · exact .inl rfl

/-- What `hextetValues` makes of one part. -/
def partValues (part : List Char) : List Nat :=
  if '.' ∈ part then [ipv4Value part / 2 ^ 16, ipv4Value part % 2 ^ 16]
  else if part = [] then [] else [hexValue part]

theorem flatMap_partValues (groups : List Nat) :
    (groups.map hexText).flatMap partValues = groups := by
  rw [List.flatMap_map]
  refine (List.flatMap_congr ?_).trans (List.flatMap_singleton' groups)
  intro n _
  have hdot : '.' ∉ hexText n := fun hdot => (ne_of_mem_hexText hdot).2.2 rfl
  rw [partValues, if_neg hdot, if_neg (hexText_ne_nil n), hexValue_hexText]

theorem takeWhile_hexText (groups : List Nat) (rest : List (List Char)) :
    (groups.map hexText ++ [] :: rest).takeWhile (· ≠ []) = groups.map hexText := by
  rw [List.takeWhile_append_of_pos]
  · simp
  · intro part hmem
    obtain ⟨n, -, rfl⟩ := List.mem_map.mp hmem
    simpa using hexText_ne_nil n

/-- The values where an empty part stands for a run, next to one more at either end. -/
theorem hextetValues_gap {before after : List Nat} {lead trail : List (List Char)}
    (hlead : before = [] ∧ lead = [[]] ∨ lead = []) (htrail : trail = [[]] ∨ trail = []) :
    hextetValues (lead ++ before.map hexText ++ [] :: (after.map hexText ++ trail)) =
      before ++ List.replicate (8 - (before ++ after).length) 0 ++ after := by
  have hempty : ∀ ends : List (List Char), ends = [[]] ∨ ends = [] →
      ends.flatMap partValues = [] := by
    rintro ends (rfl | rfl) <;> rfl
  have hgroups : (lead ++ before.map hexText ++ [] :: (after.map hexText ++ trail)).flatMap
      partValues = before ++ after := by
    rw [List.flatMap_append, List.flatMap_append, List.flatMap_cons, List.flatMap_append,
      hempty lead (hlead.imp And.right id), hempty trail htrail, flatMap_partValues,
      flatMap_partValues]
    simp [partValues]
  have hbefore : ((lead ++ before.map hexText ++ [] :: (after.map hexText ++ trail)).takeWhile
      (· ≠ [])).length = before.length := by
    rcases hlead with ⟨rfl, rfl⟩ | rfl
    · rfl
    · rw [List.nil_append, takeWhile_hexText, List.length_map]
  show ((_ : List (List Char)).flatMap partValues).take _ ++ List.replicate (8 -
    ((_ : List (List Char)).flatMap partValues).length) 0 ++
      ((_ : List (List Char)).flatMap partValues).drop _ = _
  rw [hgroups, hbefore, List.take_left' rfl, List.drop_left' rfl]

theorem hextetValues_compressHextets {groups : List Nat} (hlength : groups.length = 8) :
    hextetValues (compressHextets (groups.map hexText)) = groups := by
  have hrun : IsZeroRun (groups.map hexText) (zeroRun 0 (0, 0) (0, 0) (groups.map hexText)) := by
    have hnone : IsZeroRun ([] ++ groups.map hexText) (0, 0) :=
      ⟨Nat.zero_le _, fun i _ hlt => absurd hlt (Nat.not_lt_zero i)⟩
    exact isZeroRun_zeroRun hnone hnone (.inl rfl)
  unfold compressHextets
  generalize zeroRun 0 (0, 0) (0, 0) (groups.map hexText) = run at hrun ⊢
  obtain ⟨start, length⟩ := run
  obtain ⟨hbound, hzero⟩ := hrun
  simp only [List.length_map] at hbound
  simp only
  -- a run of two or more zeroes is left out, and a single zero stays
  by_cases hlong : 1 < length
  · rw [if_pos hlong, ← List.map_take, ← List.map_drop, hextetValues_gap]
    · -- what is left out are zeroes, which the reader puts back
      have hgap : (groups.drop start).take length = List.replicate length 0 := by
        apply List.ext_getElem?
        intro i
        by_cases hi : i < length
        · have hhere := hzero (start + i) (by omega) (by omega)
          rw [List.getElem?_map, Option.map_eq_some_iff] at hhere
          obtain ⟨n, hn, htext⟩ := hhere
          have hvalue : n = 0 := by
            rw [← hexValue_hexText n, htext]
            rfl
          rw [List.getElem?_take_of_lt hi, List.getElem?_drop, hn, hvalue,
            List.getElem?_replicate_of_lt hi]
        · rw [List.getElem?_eq_none (by simp; omega), List.getElem?_eq_none (by simp; omega)]
      have hleft : 8 - (groups.take start ++ groups.drop (start + length)).length = length := by
        rw [List.length_append, List.length_take, List.length_drop]
        omega
      rw [hleft, ← hgap, ← List.drop_drop, List.append_assoc, List.take_append_drop,
        List.take_append_drop]
    · by_cases hstart : start = 0
      · left
        rw [hstart, if_pos rfl]
        exact ⟨rfl, rfl⟩
      · right
        rw [if_neg hstart]
    · split
      · exact .inl rfl
      · exact .inr rfl
  · rw [if_neg hlong]
    -- no part is empty, so all of them stand before the gap
    have hall : ((groups.map hexText).takeWhile (· ≠ [])).length = 8 := by
      rw [List.takeWhile_eq_self_iff.mpr, List.length_map, hlength]
      intro part hmem
      obtain ⟨n, -, rfl⟩ := List.mem_map.mp hmem
      simpa using hexText_ne_nil n
    show ((_ : List (List Char)).flatMap partValues).take _ ++ List.replicate (8 -
      ((_ : List (List Char)).flatMap partValues).length) 0 ++
        ((_ : List (List Char)).flatMap partValues).drop _ = _
    rw [hall, flatMap_partValues, hlength, List.take_of_length_le (Nat.le_of_eq hlength),
      List.drop_of_length_le (Nat.le_of_eq hlength)]
    simp

/-- The parts of an address have no separator in them. -/
theorem ne_of_mem_compressHextets {groups : List Nat} {part : List Char} {c : Char}
    (hpart : part ∈ compressHextets (groups.map hexText)) (hc : c ∈ part) :
    c ≠ ':' ∧ c ≠ '%' ∧ c ≠ '.' := by
  have hsource : part = [] ∨ part ∈ groups.map hexText := by
    unfold compressHextets at hpart
    simp only at hpart
    split at hpart
    · simp only [List.mem_append, List.mem_cons] at hpart
      rcases hpart with (hlead | htake) | hgap | hdrop | htrail
      · split at hlead <;> simp_all
      · exact .inr (List.mem_of_mem_take htake)
      · exact .inl hgap
      · exact .inr (List.mem_of_mem_drop hdrop)
      · split at htrail <;> simp_all
    · exact .inr hpart
  rcases hsource with rfl | hmem
  · cases hc
  · obtain ⟨n, -, rfl⟩ := List.mem_map.mp hmem
    exact ne_of_mem_hexText hc

theorem compressHextets_ne_nil {parts : List (List Char)} (h : parts ≠ []) :
    compressHextets parts ≠ [] := by
  unfold compressHextets
  simp only
  split
  · simp
  · exact h

/-- The text of an IPv6 address is read as its value. -/
theorem ipv6Value_ipv6Text {ip : Nat} (h : ip < 2 ^ 128) : ipv6Value (ipv6Text ip) = ip := by
  have hpercent : ∀ c ∈ ipv6Text ip, c ≠ '%' := by
    intro c hc
    rcases mem_intercalate.1 hc with rfl | ⟨part, hpart, hmem⟩
    · decide
    · exact (ne_of_mem_compressHextets hpart hmem).2.1
  have hsplit : (ipv6Text ip).splitOn ':' = compressHextets ((hextets ip).map hexText) := by
    apply List.splitOn_intercalate
    · intro part hpart hcolon
      exact (ne_of_mem_compressHextets hpart hcolon).1 rfl
    · exact compressHextets_ne_nil (by simp [hextets])
  unfold ipv6Value
  rw [List.takeWhile_eq_self_iff.mpr (fun c hc => by simpa using hpercent c hc), hsplit,
    hextetValues_compressHextets rfl]
  simp only [hextets, List.foldl_cons, List.foldl_nil]
  norm_num at h ⊢
  omega

/-- The text of an IPv4 address is one, and has its value. -/
theorem ipv4Text_spec {ip : Nat} (h : ip < 2 ^ 32) :
    isIpv4Text (ipv4Text ip) = true ∧ ipv4Value (ipv4Text ip) = ip := by
  have hoctet : ∀ n < 256, isOctet (decimalText n) = true ∧ natOfDigits (decimalText n) = n := by
    decide +kernel
  have hsplit : (ipv4Text ip).splitOn '.' =
      [ip / 2 ^ 24 % 256, ip / 2 ^ 16 % 256, ip / 2 ^ 8 % 256, ip % 256].map decimalText := by
    apply List.splitOn_intercalate
    · intro part hpart hdot
      obtain ⟨n, -, rfl⟩ := List.mem_map.mp hpart
      exact absurd (isDigit_of_mem_decimalText hdot) (by decide)
    · simp
  have hlt : ∀ n, n % 256 < 256 := fun n => Nat.mod_lt n (by decide)
  constructor
  · unfold isIpv4Text
    rw [hsplit]
    simp only [List.map_cons, List.map_nil, List.length_cons, List.length_nil, List.all_cons,
      List.all_nil, (hoctet _ (hlt _)).1]
    rfl
  · unfold ipv4Value
    rw [hsplit]
    simp only [List.map_cons, List.map_nil, List.foldl_cons, List.foldl_nil, (hoctet _ (hlt _)).2]
    norm_num at h ⊢
    omega

/-- `ip_address` reads the text of an IPv4 address back. -/
theorem ipAddress?_ipv4Text (ip : Fin (2 ^ 32)) : ipAddress? (ipv4Text ip) = some (.v4 ip) := by
  obtain ⟨htext, hvalue⟩ := ipv4Text_spec ip.isLt
  rw [ipAddress?, if_pos htext, hvalue, Fin.ofNat_val_eq_self]

/-- What `ip_address` reads of the text of an IPv6 address is the address. -/
theorem ipAddress?_ipv6Text (ip : Fin (2 ^ 128)) {address : IpAddress}
    (h : ipAddress? (ipv6Text ip) = some address) : address = .v6 ip := by
  have hdot : '.' ∉ ipv6Text ip := by
    intro hdot
    rcases mem_intercalate.1 hdot with h | ⟨part, hpart, hmem⟩
    · exact absurd h (by decide)
    · exact (ne_of_mem_compressHextets hpart hmem).2.2 rfl
  -- without a dot the text is no IPv4 address, so it is read as an IPv6 address
  have hnot : ¬ isIpv4Text (ipv6Text ip) = true := by
    rw [isIpv4Text, List.splitOn_eq_singleton hdot]
    simp
  rw [ipAddress?, if_neg hnot] at h
  split at h
  · rw [ipv6Value_ipv6Text ip.isLt, Fin.ofNat_val_eq_self] at h
    exact (Option.some.inj h).symm
  · cases h

end CryptoScanner.Python
