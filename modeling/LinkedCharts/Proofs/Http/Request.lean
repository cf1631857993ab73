import LinkedCharts.Proofs.Http.Since
import LinkedCharts.Proofs.Url.Parts

/-!
# What a request asks for

A request for the samples since a time goes to the URL that a request for all samples goes to, with
a pair more in its query. No character of a time has to be encoded there.

Results:
* `sinceText_notMem_pairSet`: the characters of a time are left as they are in a query.
* `seriesUrl?_since`: such a request fails just if the other one does, and for the same cause; else
  its URL is the same but for the pair, which stands at the end of the query.
-/

namespace LinkedCharts

open Url

/-! ## Times in a pair -/

theorem inPairSet_of_isDigit {c : Char} (h : c.isDigit = true) : inPairSet c = false := by
  unfold inPairSet Char.isAlphanum
  rw [h, Bool.or_true, Bool.true_or]
  rfl

theorem inPairSet_of_all {cs : List Char} (h : cs.all (!inPairSet ·) = true) :
    ∀ c ∈ cs, inPairSet c = false := by
  simpa using h

/-- The characters of a time are left as they are in a query. -/
theorem sinceText_notMem_pairSet (t : Binary64) :
    ∀ c ∈ (sinceText t).toList, inPairSet c = false := by
  cases t with
  | finite s n hfits =>
    obtain ⟨negative, whole, fraction, htext, -, hdigits, -⟩ :=
      exists_literal (t := .finite s n hfits) rfl
    intro c hc
    rw [htext, List.mem_append, List.mem_append] at hc
    rcases hc with (hsign | hwhole) | hpointed
    · cases negative with
      | false => cases hsign
      | true =>
        obtain rfl := List.mem_singleton.1 hsign
        decide
    · exact inPairSet_of_isDigit (hdigits c (List.mem_append_left _ hwhole))
    · unfold Decimal.pointed at hpointed
      split at hpointed
      · cases hpointed
      · rcases List.mem_cons.1 hpointed with rfl | hfraction
        · decide
        · exact inPairSet_of_isDigit (hdigits c (List.mem_append_right _ hfraction))
  | infinite s =>
    cases s with
    | false => exact inPairSet_of_all (by decide)
    | true => exact inPairSet_of_all (by decide)
  | nan => exact inPairSet_of_all (by decide)

/-- A text of such characters is its own encoding. -/
theorem encodePair_eq_self {cs : List Char} (h : ∀ c ∈ cs, inPairSet c = false) :
    encodePair cs = cs := by
  have hself : ∀ c ∈ cs, (if c = ' ' then ['+'] else encodeChar inPairSet c) = [c] := by
    intro c hc
    have hkept := h c hc
    have hblank : c ≠ ' ' := by
      rintro rfl
      exact absurd hkept (by decide)
    rw [if_neg hblank]
    unfold encodeChar
    rw [hkept]
    rfl
  exact (List.flatMap_congr hself).trans (List.flatMap_singleton' cs)

/-- The pair with a time as it stands in a query. -/
theorem encodePair_since (t : Binary64) :
    encodePair "from".toList ++ '=' :: encodePair (sinceText t).toList =
      ("from=" ++ sinceText t).toList := by
  have hname : encodePair "from".toList = "from".toList := by decide
  rw [hname, encodePair_eq_self (sinceText_notMem_pairSet t), String.toList_append]
  rfl

/-! ## Two requests -/

/-- A query with a pair more, behind an ampersand unless there was nothing. -/
def queryWith (query : Option String) (pair : String) : String :=
  match query with
  | none => pair
  | some q => if q = "" then pair else q ++ "&" ++ pair

/-- What the query was stays in front, byte for byte. -/
theorem queryText_prefix (u : Url) (pair : String) :
    u.queryText <+: Url.queryText { u with query := some (queryWith u.query pair) } := by
  unfold queryText queryWith
  cases u.query with
  | none => exact List.nil_prefix
  | some q =>
    by_cases hq : q = ""
    · subst hq
      exact ⟨pair.toList, by simp [markedText]⟩
    · refine ⟨'&' :: pair.toList, ?_⟩
      simp [markedText, hq]

theorem withPair_since (u : Url) (t : Binary64) :
    u.withPair "from" (sinceText t) =
      { u with query := some (queryWith u.query ("from=" ++ sinceText t)) } := by
  have hquery : String.ofList
      (addPair (u.query.getD "").toList "from".toList (sinceText t).toList) =
        queryWith u.query ("from=" ++ sinceText t) := by
    apply String.toList_inj.1
    rw [String.toList_ofList, addPair, List.append_assoc, encodePair_since]
    unfold queryWith
    cases u.query with
    | none => rfl
    | some q =>
      by_cases hq : q = ""
      · subst hq
        rfl
      · simp [hq]
  unfold withPair
  rw [hquery]

theorem wellMarked_of_mem_none : ∀ b ∈ (none : Option Url), b.WellMarked :=
  fun _ hb => absurd hb (Option.not_mem_none _)

theorem baseUrl?_wellMarked {text : String} {b : Url} (h : baseUrl? text = .ok b) :
    b.WellMarked := by
  unfold baseUrl? at h
  split at h
  · rename_i u hu
    obtain rfl := Except.ok.inj h
    exact ofText?_wellMarked wellMarked_of_mem_none hu
  · cases h

theorem resolve?_wellMarked {base : Option Url} (hbase : ∀ b ∈ base, b.WellMarked) {url : String}
    {u : Url} (h : resolve? base url = .ok u) : u.WellMarked := by
  unfold resolve? at h
  split at h
  · rename_i v hv
    obtain rfl := Except.ok.inj h
    exact ofText?_wellMarked wellMarked_of_mem_none hv
  · exact ofText?_wellMarked hbase h
  · cases h

/-- A request for the samples since a time, for every series and every server that it may be
    relative to. It fails just if a request for all samples fails, and for the same cause. Otherwise
    its URL is the one for all samples with the time at the end of the query, behind what the query
    was, and nothing else changed; in the text this is a pair at the end of what stands before the
    fragment, behind a question mark if there was no query, behind nothing if the query was empty,
    and behind an ampersand otherwise. -/
theorem seriesUrl?_since {base : Option Url} (hbase : ∀ b ∈ base, ∃ text, baseUrl? text = .ok b)
    (url : String) (t : Binary64) :
    (∀ f, seriesUrl? base url (some t) = .error f ↔ seriesUrl? base url none = .error f) ∧
    ∀ u, seriesUrl? base url none = .ok u → ∃ v, seriesUrl? base url (some t) = .ok v ∧
      v = { u with query := some (queryWith u.query ("from=" ++ sinceText t)) } ∧
      u.queryText <+: v.queryText ∧
      v.text.toList = insertPair u.text.toList ("from=" ++ sinceText t).toList := by
  unfold seriesUrl?
  cases hu : resolve? base url with
  | error cause => exact ⟨fun f => Iff.rfl, fun u h => nomatch h⟩
  | ok u =>
    have hmarked : u.WellMarked := resolve?_wellMarked (fun b hb =>
      have ⟨_, hread⟩ := hbase b hb
      baseUrl?_wellMarked hread) hu
    refine ⟨fun f => ⟨fun h => (nomatch h), fun h => (nomatch h)⟩, ?_⟩
    rintro _ ⟨⟩
    refine ⟨_, rfl, withPair_since u t, ?_, ?_⟩
    · rw [withPair_since]
      exact queryText_prefix u _
    · rw [hmarked.text_withPair, encodePair_since]

/-- A series that is relative to a server, with a query and a fragment. -/
theorem seriesUrl?_since_relative :
    let b : Url := ⟨"http", "", "", some (.name "h"), some 8080, .segments ["x"], some "y",
      some "z"⟩
    let u : Url := ⟨"http", "", "", some (.name "h"), some 8080, .segments ["metrics"],
      some "run=3", some "top"⟩
    baseUrl? "http://h:8080/x?y#z" = .ok b ∧ seriesUrl? (some b) "/metrics?run=3#top" none = .ok u ∧
    u.text = "http://h:8080/metrics?run=3#top" ∧
    ∃ v, seriesUrl? (some b) "/metrics?run=3#top" (some (Binary64.ofNat 1500)) = .ok v ∧
      v.text = "http://h:8080/metrics?run=3&from=1500#top" := by
  intro b u
  have hb : baseUrl? "http://h:8080/x?y#z" = .ok b := by decide +kernel
  have hu : seriesUrl? (some b) "/metrics?run=3#top" none = .ok u := by decide +kernel
  have htext : u.text = "http://h:8080/metrics?run=3#top" := by decide +kernel
  have htime : sinceText (Binary64.ofNat 1500) = "1500" := by decide +kernel
  have hbase : ∀ c ∈ some b, ∃ text, baseUrl? text = .ok c := by
    rintro _ ⟨⟩
    exact ⟨_, hb⟩
  obtain ⟨-, hsince⟩ := seriesUrl?_since hbase "/metrics?run=3#top" (Binary64.ofNat 1500)
  obtain ⟨v, hv, -, -, hpair⟩ := hsince u hu
  refine ⟨hb, hu, htext, v, hv, ?_⟩
  rw [htext, htime] at hpair
  exact String.toList_inj.1 (hpair.trans (by decide +kernel))

end LinkedCharts
