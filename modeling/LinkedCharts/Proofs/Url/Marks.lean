import LinkedCharts.Url.Reader
import LinkedCharts.Proofs.Json.Finite
import LinkedCharts.Proofs.Text.Split

/-!
# Where the marks of a URL stand

The first question mark of a URL is the one in front of its query, and the first number sign is the
one in front of its fragment. For this no part before the query may have either sign in it, and no
query a number sign. Every part of a URL that was read keeps to that: what is written of a path, a
user name or a password has the signs encoded, the text of a host is refused if it has them, and
addresses and ports are written in digits.

Results:
* `forall_encode`: what holds of all characters of an encoded text.
* `unmarked_walk`: a path keeps to it segment by segment.
* `unmarked_domain`: a domain name is refused if it has the signs, and Punycode does not bring them
  in.
* `Host.ofText?_unmarked`, `Host.ofPlainText?_unmarked`: hosts keep to it.
-/

namespace LinkedCharts.Url

/-- Neither sign is in a text. -/
def Unmarked (cs : List Char) : Prop := ∀ c ∈ cs, c ≠ '?' ∧ c ≠ '#'

namespace Unmarked

variable {cs ds : List Char} {c : Char}

theorem nil : Unmarked [] := fun _ h => absurd h List.not_mem_nil

theorem cons_iff : Unmarked (c :: cs) ↔ (c ≠ '?' ∧ c ≠ '#') ∧ Unmarked cs := List.forall_mem_cons

theorem append_iff : Unmarked (cs ++ ds) ↔ Unmarked cs ∧ Unmarked ds := List.forall_mem_append

theorem mono (h : Unmarked ds) (hsub : cs ⊆ ds) : Unmarked cs := fun c hc => h c (hsub hc)

theorem flatMap {α : Type} {l : List α} {f : α → List Char} (h : ∀ x ∈ l, Unmarked (f x)) :
    Unmarked (l.flatMap f) := by
  intro c hc
  obtain ⟨x, hx, hcx⟩ := List.mem_flatMap.1 hc
  exact h x hx c hcx

theorem intercalate {separator : List Char} (hseparator : Unmarked separator)
    {parts : List (List Char)} (h : ∀ p ∈ parts, Unmarked p) :
    Unmarked (List.intercalate separator parts) := by
  induction parts with
  | nil => exact nil
  | cons p rest ih =>
    obtain ⟨hp, hrest⟩ := List.forall_mem_cons.1 h
    cases rest with
    | nil => simpa using hp
    | cons q rest =>
      rw [List.intercalate_cons_cons, append_iff, append_iff]
      exact ⟨⟨hp, hseparator⟩, ih hrest⟩

end Unmarked

/-- A character outside of a set that has both signs. -/
theorem ne_of_eq_false {set : Char → Bool} (hquestion : set '?' = true) (hnumber : set '#' = true)
    {c : Char} (h : set c = false) : c ≠ '?' ∧ c ≠ '#' := by
  refine ⟨?_, ?_⟩
  · rintro rfl
    rw [hquestion] at h
    cases h
  · rintro rfl
    rw [hnumber] at h
    cases h

theorem unmarked_of_not_any {set : Char → Bool} (hquestion : set '?' = true)
    (hnumber : set '#' = true) {cs : List Char} (h : ¬ cs.any set = true) : Unmarked cs :=
  fun c hc => ne_of_eq_false hquestion hnumber
    (Bool.not_eq_true _ ▸ List.any_eq_false.1 (Bool.not_eq_true _ ▸ h) c hc)

/-! ## Digits -/

/-- The characters that are digits of some base. -/
theorem digitChar_mem (n : ℕ) : Nat.digitChar n ∈ "0123456789abcdef*".toList := by
  rcases Nat.lt_or_ge n 16 with hlt | hge
  · exact (by decide : ∀ n < 16, Nat.digitChar n ∈ "0123456789abcdef*".toList) n hlt
  · rw [Nat.digitChar_eq_star.2 hge]
    decide

theorem forall_digitChar {P : Char → Prop} (h : ∀ c ∈ "0123456789abcdef*".toList, P c) (n : ℕ) :
    P (Nat.digitChar n) := h _ (digitChar_mem n)

/-- Numbers are written in digits. -/
theorem unmarked_toDigits {base : ℕ} (hbase : 1 < base) (n : ℕ) :
    Unmarked (Nat.toDigits base n) := by
  have hdigit : ∀ d : ℕ, Unmarked [Nat.digitChar d] := fun d =>
    Unmarked.cons_iff.2 ⟨forall_digitChar (P := fun c => c ≠ '?' ∧ c ≠ '#') (by simp) d, .nil⟩
  induction n using Nat.strong_induction_on with
  | _ n ih =>
    rw [Nat.toDigits_eq_if hbase]
    split
    · exact hdigit n
    · rename_i hlarge
      exact Unmarked.append_iff.2 ⟨ih _ (Nat.div_lt_self (by omega) hbase), hdigit _⟩

/-! ## Encoded texts -/

/-- An encoded text has percent signs, hexadecimal digits and characters outside of the set. -/
theorem forall_encode {P : Char → Prop} {set : Char → Bool} {cs : List Char} (hpercent : P '%')
    (hdigit : ∀ n, P (Text.upperHexDigit n)) (h : ∀ c ∈ cs, set c = false → P c) :
    ∀ c ∈ encode set cs, P c := by
  intro d hd
  obtain ⟨c, hc, hd⟩ := List.mem_flatMap.1 hd
  unfold encodeChar at hd
  split at hd
  · obtain ⟨b, -, hd⟩ := List.mem_flatMap.1 hd
    unfold encodeByte at hd
    simp only [List.mem_cons, List.not_mem_nil, or_false] at hd
    rcases hd with rfl | rfl | rfl
    · exact hpercent
    · exact hdigit _
    · exact hdigit _
  · rename_i hset
    obtain rfl := List.mem_singleton.1 hd
    exact h d hc (Bool.not_eq_true _ ▸ hset)

theorem upperHexDigit_ne (n : ℕ) : Text.upperHexDigit n ≠ '?' ∧ Text.upperHexDigit n ≠ '#' :=
  forall_digitChar (P := fun c => c.toUpper ≠ '?' ∧ c.toUpper ≠ '#') (by simp) n

/-- A text without the signs has none when it is encoded. -/
theorem Unmarked.encode {set : Char → Bool} {cs : List Char} (h : Unmarked cs) :
    Unmarked (encode set cs) :=
  forall_encode (by decide) upperHexDigit_ne fun c hc _ => h c hc

/-- Any text has none if both are encoded. -/
theorem unmarked_encode {set : Char → Bool} (hquestion : set '?' = true) (hnumber : set '#' = true)
    (cs : List Char) : Unmarked (encode set cs) :=
  forall_encode (by decide) upperHexDigit_ne fun _ _ hset => ne_of_eq_false hquestion hnumber hset

/-- A query has no number sign. -/
theorem number_notMem_encodeQuery (scheme : String) (cs : List Char) :
    '#' ∉ (encodeQuery scheme cs).toList := by
  have hset : ∀ set : Char → Bool, set '#' = true → '#' ∉ encode set cs := by
    intro set hnumber hmem
    refine forall_encode (P := fun c => c ≠ '#') (by decide) (fun n => (upperHexDigit_ne n).2)
      (fun c _ hc => ?_) _ hmem rfl
    rintro rfl
    rw [hnumber] at hc
    cases hc
  unfold encodeQuery
  rw [String.toList_ofList]
  split
  · exact hset _ (by decide)
  · exact hset _ (by decide)

/-! ## Paths -/

/-- All segments of a path. -/
def AllUnmarked (parts : List String) : Prop := ∀ p ∈ parts, Unmarked p.toList

variable {parts : List String}

theorem AllUnmarked.mono {fewer : List String} (h : AllUnmarked parts) (hsub : fewer ⊆ parts) :
    AllUnmarked fewer := fun p hp => h p (hsub hp)

theorem AllUnmarked.cons_empty (h : AllUnmarked parts) : AllUnmarked ("" :: parts) :=
  List.forall_mem_cons.2 ⟨.nil, h⟩

theorem allUnmarked_start : AllUnmarked [""] :=
  AllUnmarked.cons_empty fun _ h => absurd h List.not_mem_nil

theorem AllUnmarked.openSegment (h : AllUnmarked parts) : AllUnmarked (openSegment parts) := by
  unfold Url.openSegment
  split
  · exact h
  · exact h.cons_empty

theorem AllUnmarked.dropSlash (h : AllUnmarked parts) : AllUnmarked (dropSlash parts) := by
  unfold Url.dropSlash
  split
  · split
    · exact h
    · exact h.mono (List.subset_cons_self _ _)
  · exact h

theorem AllUnmarked.shorten (h : AllUnmarked parts) (file : Bool) :
    AllUnmarked (shorten file parts) := by
  unfold Url.shorten
  split
  · exact h
  · split
    · exact h
    · exact AllUnmarked.cons_empty (h.mono (List.subset_cons_self _ _))

theorem AllUnmarked.extendLast (h : AllUnmarked parts) {text : String}
    (htext : Unmarked text.toList) : AllUnmarked (extendLast text parts) := by
  unfold Url.extendLast
  split
  · exact List.forall_mem_cons.2 ⟨htext, fun _ h => absurd h List.not_mem_nil⟩
  · obtain ⟨hlast, hbefore⟩ := List.forall_mem_cons.1 h
    refine List.forall_mem_cons.2 ⟨?_, hbefore⟩
    rw [String.toList_append]
    exact Unmarked.append_iff.2 ⟨hlast, htext⟩

theorem AllUnmarked.addSegment (h : AllUnmarked parts) (file : Bool) (segment : List Char)
    (slash : Bool) : AllUnmarked (addSegment file parts segment slash) := by
  have htext : ∀ parts, Unmarked (String.ofList
      (Url.encode inPathSet (driveSegment file parts segment))).toList := by
    intro parts
    rw [String.toList_ofList]
    exact unmarked_encode (by decide) (by decide) _
  unfold Url.addSegment
  dsimp only
  generalize hkept : (if file && isDriveAlone parts && !segment.isEmpty then "" :: parts
    else parts) = kept
  have hall : AllUnmarked kept := by
    rw [← hkept]
    split
    · exact h.cons_empty
    · exact h
  split
  · split
    · exact (hall.dropSlash.shorten file).openSegment
    · exact hall.dropSlash.shorten file
  · split
    · exact hall.openSegment
    · split
      · exact (hall.extendLast (htext kept)).cons_empty
      · exact hall.extendLast (htext kept)

/-- A path that is walked has the signs encoded in every segment. -/
theorem unmarked_walk (h : AllUnmarked parts) (file : Bool) (segments : List (List Char)) :
    AllUnmarked (walk file parts segments) := by
  induction segments generalizing parts with
  | nil => exact h
  | cons segment rest ih => exact ih (h.addSegment file segment _)

theorem AllUnmarked.reverse (h : AllUnmarked parts) : AllUnmarked parts.reverse :=
  h.mono fun _ hp => List.mem_reverse.1 hp

theorem AllUnmarked.trimFront (h : AllUnmarked parts) : AllUnmarked (trimFront parts) := by
  unfold Url.trimFront
  split
  · exact allUnmarked_start
  · exact h.mono (List.dropWhile_subset _)

theorem unmarked_fileSegments (h : AllUnmarked parts) (cs : List Char) :
    AllUnmarked (fileSegments parts cs) :=
  (unmarked_walk h true _).reverse.trimFront

theorem unmarked_segments (h : AllUnmarked parts) (special : Bool) (cs : List Char) :
    AllUnmarked (segments special parts cs) :=
  (unmarked_walk h false _).reverse

theorem unmarked_rootedPath (special : Bool) (cs : List Char) :
    AllUnmarked (rootedPath special cs) := by
  unfold rootedPath
  split
  · exact fun _ h => absurd h List.not_mem_nil
  · exact unmarked_segments allUnmarked_start special _

/-! ## Hosts -/

theorem unmarked_ipv4Text (address : ℕ) : Unmarked (ipv4Text address) := by
  refine Unmarked.intercalate (Unmarked.cons_iff.2 ⟨by decide, .nil⟩) fun p hp => ?_
  obtain ⟨i, -, rfl⟩ := List.mem_map.1 hp
  exact unmarked_toDigits (by decide) _

theorem unmarked_pieceTexts (pieces : List ℕ) : Unmarked (pieceTexts pieces) := by
  refine Unmarked.intercalate (Unmarked.cons_iff.2 ⟨by decide, .nil⟩) fun p hp => ?_
  obtain ⟨n, -, rfl⟩ := List.mem_map.1 hp
  exact unmarked_toDigits (by decide) n

theorem unmarked_ipv6Text (pieces : List ℕ) : Unmarked (ipv6Text pieces) := by
  have hcolons : Unmarked [':', ':'] := by simp [Unmarked]
  unfold ipv6Text
  split
  · exact unmarked_pieceTexts pieces
  · exact Unmarked.append_iff.2
      ⟨Unmarked.append_iff.2 ⟨unmarked_pieceTexts _, hcolons⟩, unmarked_pieceTexts _⟩

/-- The digits of Punycode are letters and digits. -/
theorem unmarked_punycode_digit {n : ℕ} (h : n < 36) :
    Punycode.digit n ≠ '?' ∧ Punycode.digit n ≠ '#' :=
  (by decide : ∀ n < 36, Punycode.digit n ≠ '?' ∧ Punycode.digit n ≠ '#') n h

theorem unmarked_punycode_digits (bias place n : ℕ) : Unmarked (Punycode.digits bias place n) := by
  have hthreshold : ∀ bias place, 1 ≤ Punycode.threshold bias place ∧
      Punycode.threshold bias place ≤ 26 := by
    intro bias place
    unfold Punycode.threshold
    omega
  induction n using Nat.strong_induction_on generalizing place with
  | _ n ih =>
    obtain ⟨hlow, hhigh⟩ := hthreshold bias place
    unfold Punycode.digits
    dsimp only
    split
    · exact Unmarked.cons_iff.2 ⟨unmarked_punycode_digit (by omega), .nil⟩
    · have hmod := Nat.mod_lt (n - Punycode.threshold bias place)
        (show 0 < 36 - Punycode.threshold bias place by omega)
      have hdiv := Nat.div_le_self (n - Punycode.threshold bias place)
        (36 - Punycode.threshold bias place)
      exact Unmarked.cons_iff.2 ⟨unmarked_punycode_digit (by omega), ih _ (by omega) _⟩

theorem unmarked_pass {basic code : ℕ} {w : Punycode.Writing} (h : Unmarked w.output) (c : Char) :
    Unmarked (w.pass basic code c).output := by
  unfold Punycode.Writing.pass
  split
  · exact h
  · split
    · exact Unmarked.append_iff.2 ⟨h, unmarked_punycode_digits _ _ _⟩
    · exact h

theorem unmarked_passAll (label : List Char) (basic next : ℕ) {w : Punycode.Writing}
    (h : Unmarked w.output) (codes : List ℕ) :
    Unmarked (Punycode.Writing.passAll label basic next w codes).output := by
  induction codes generalizing next w with
  | nil => exact h
  | cons code rest ih =>
    refine ih (code + 1) ?_
    exact List.foldlRecOn (motive := fun w : Punycode.Writing => Unmarked w.output) label _ h
      fun w hw c _ => unmarked_pass hw c

/-- What Punycode writes has the characters of the label that are in ASCII, and letters and
    digits. -/
theorem unmarked_punycode {label : List Char} (h : Unmarked label) :
    Unmarked (Punycode.encode label) := by
  unfold Punycode.encode
  dsimp only
  refine Unmarked.append_iff.2 ⟨?_, unmarked_passAll _ _ _ Unmarked.nil _⟩
  have hbasic := h.mono (List.filter_sublist (p := fun c : Char => c.toNat < 0x80)).subset
  split
  · exact .nil
  · exact Unmarked.append_iff.2 ⟨hbasic, Unmarked.cons_iff.2 ⟨by decide, .nil⟩⟩

/-- A label of a name without the signs has none. -/
theorem unmarked_label {cs : List Char} {l : Label} (h : Unmarked cs)
    (hl : Label.ofText? cs = some l) : Unmarked l.ascii := by
  have hmark : Unmarked punycodeMark := by simp [Unmarked, punycodeMark]
  unfold Label.ofText? at hl
  split at hl
  · unfold Label.ofPunycode? at hl
    split at hl
    · cases hl
    · obtain ⟨letters, -, hl⟩ := Option.bind_eq_some_iff.1 hl
      split at hl
      · obtain rfl := Option.some.inj hl
        exact Unmarked.append_iff.2 ⟨hmark, h.mono (List.drop_subset _ _)⟩
      · cases hl
  · split at hl
    · obtain rfl := Option.some.inj hl
      exact h
    · split at hl
      · obtain rfl := Option.some.inj hl
        exact Unmarked.append_iff.2 ⟨hmark, unmarked_punycode h⟩
      · cases hl

/-- A domain name is refused if it has the signs. -/
theorem unmarked_domain {cs labels : List Char} (h : domain? cs = some labels) :
    Unmarked labels := by
  unfold domain? at h
  obtain ⟨name, -, h⟩ := Option.bind_eq_some_iff.1 h
  split at h
  · cases h
  · rename_i hforbidden
    have hname := unmarked_of_not_any (by decide) (by decide) hforbidden
    obtain ⟨labels', hlabels, h⟩ := Option.bind_eq_some_iff.1 h
    split at h
    · cases h
    · obtain rfl := Option.some.inj h
      refine Unmarked.intercalate (Unmarked.cons_iff.2 ⟨by decide, .nil⟩) fun p hp => ?_
      obtain ⟨l, hl, rfl⟩ := List.mem_map.1 hp
      obtain ⟨part, hpart, hlabel⟩ := Json.exists_of_mem_mapM hlabels hl
      exact unmarked_label (hname.mono (Text.subset_of_mem_splitBy hpart)) hlabel

end LinkedCharts.Url

namespace LinkedCharts.Host

open Url

variable {cs : List Char} {host : Host}

theorem ofBrackets?_unmarked (h : ofBrackets? cs = .ok host) : Unmarked host.text := by
  unfold ofBrackets? at h
  split at h
  · split at h
    · obtain rfl := Except.ok.inj h
      exact Unmarked.cons_iff.2 ⟨by decide, Unmarked.append_iff.2
        ⟨unmarked_ipv6Text _, Unmarked.cons_iff.2 ⟨by decide, .nil⟩⟩⟩
    · cases h
  · cases h

/-- The host of a special scheme. -/
theorem ofText?_unmarked (h : Host.ofText? cs = .ok host) : Unmarked host.text := by
  unfold Host.ofText? at h
  split at h
  · exact ofBrackets?_unmarked h
  · split at h
    · cases h
    · cases h
    · rename_i labels _ hlabels
      split at h
      · split at h
        · obtain rfl := Except.ok.inj h
          exact unmarked_ipv4Text _
        · cases h
      · obtain rfl := Except.ok.inj h
        obtain ⟨s, -, hdomain⟩ := Option.bind_eq_some_iff.1 hlabels
        show Unmarked (String.ofList labels).toList
        rw [String.toList_ofList]
        exact unmarked_domain hdomain

/-- The host of any other scheme. -/
theorem ofPlainText?_unmarked (h : Host.ofPlainText? cs = .ok host) : Unmarked host.text := by
  unfold Host.ofPlainText? at h
  split at h
  · exact ofBrackets?_unmarked h
  · split at h
    · cases h
    · rename_i hforbidden
      obtain rfl := Except.ok.inj h
      show Unmarked (String.ofList (Url.encode isControl cs)).toList
      rw [String.toList_ofList]
      exact (unmarked_of_not_any (by decide) (by decide) hforbidden).encode

end LinkedCharts.Host
