import LinkedCharts.Proofs.Url.Marks

/-!
# The parts of a URL in its text

The text of a URL that was read can be taken apart again at its first question mark and its first
number sign, and each way of reading a URL leaves it so, whether a part was read or taken over from
a base.

Results:
* `WellMarked`: nothing before the query has either sign, and the query has no number sign.
* `ofText?_wellMarked`: every URL that is read is like that, if its base is.
* `insertPair`, `text_withPair`: a pair more in the query is a pair more in the text, at the end of
  what stands before the fragment.
-/

namespace LinkedCharts.Url

/-! ## Well-marked URLs -/

/-- The signs are not in a path. -/
def PathUnmarked : UrlPath → Prop
  | .plain text => Unmarked text.toList
  | .segments parts => AllUnmarked parts

/-- Nothing before the query has either sign, and the query has no number sign. -/
structure WellMarked (u : Url) : Prop where
  scheme : Unmarked u.scheme.toList
  username : Unmarked u.username.toList
  password : Unmarked u.password.toList
  host : ∀ h ∈ u.host, Unmarked h.text
  path : PathUnmarked u.path
  query : ∀ q ∈ u.query, '#' ∉ q.toList

variable {u b : Url}

theorem PathUnmarked.parts {path : UrlPath} (h : PathUnmarked path) :
    AllUnmarked (UrlPath.parts path) := by
  cases path with
  | plain text => exact fun _ hp => absurd hp List.not_mem_nil
  | segments parts => exact h

theorem unmarked_frontText (h : u.WellMarked) : Unmarked u.frontText := by
  have hcolon : ∀ cs, Unmarked cs → Unmarked (':' :: cs) := fun cs hcs =>
    Unmarked.cons_iff.2 ⟨by decide, hcs⟩
  have hcredentials : Unmarked u.credentialsText := by
    unfold credentialsText
    split
    · exact .nil
    · refine Unmarked.append_iff.2 ⟨Unmarked.append_iff.2 ⟨h.username, ?_⟩, ?_⟩
      · split
        · exact .nil
        · exact hcolon _ h.password
      · exact Unmarked.cons_iff.2 ⟨by decide, .nil⟩
  have hauthority : Unmarked u.authorityText := by
    unfold authorityText
    split
    · exact .nil
    · rename_i host hhost
      have hslashes : Unmarked ['/', '/'] := by simp [Unmarked]
      refine Unmarked.append_iff.2 ⟨Unmarked.append_iff.2
        ⟨Unmarked.append_iff.2 ⟨hslashes, hcredentials⟩, h.host host hhost⟩, ?_⟩
      split
      · exact .nil
      · exact hcolon _ (unmarked_toDigits (by decide) _)
  have hpath : Unmarked u.pathText := by
    have hpath := h.path
    unfold pathText
    split
    · rename_i text htext
      rwa [htext] at hpath
    · rename_i parts hparts
      rw [hparts] at hpath
      refine Unmarked.append_iff.2 ⟨?_, Unmarked.flatMap fun p hp => ?_⟩
      · split
        · simp [Unmarked]
        · exact .nil
      · exact Unmarked.cons_iff.2 ⟨by decide, hpath p hp⟩
  exact Unmarked.append_iff.2 ⟨h.scheme, hcolon _ (Unmarked.append_iff.2 ⟨hauthority, hpath⟩)⟩

/-! ## Reading -/

namespace WellMarked

theorem withTail (h : u.WellMarked) (t : Tail) : (withTail u t).WellMarked where
  scheme := h.scheme
  username := h.username
  password := h.password
  host := h.host
  path := h.path
  query := by
    intro q hq
    obtain ⟨cs, -, rfl⟩ := Option.map_eq_some_iff.1 hq
    exact number_notMem_encodeQuery _ cs

theorem withPath (h : u.WellMarked) (path : UrlPath) (hpath : PathUnmarked path) :
    WellMarked { u with path } where
  scheme := h.scheme
  username := h.username
  password := h.password
  host := h.host
  path := hpath
  query := h.query

theorem withFragment (h : u.WellMarked) (fragment : Option String) :
    WellMarked { u with fragment } where
  scheme := h.scheme
  username := h.username
  password := h.password
  host := h.host
  path := h.path
  query := h.query

end WellMarked

/-- A URL with a host and without query and fragment. -/
theorem wellMarked_withHost {scheme username password : String} {host : Host} {port : Option ℕ}
    {parts : List String} (hscheme : Unmarked scheme.toList) (husername : Unmarked username.toList)
    (hpassword : Unmarked password.toList) (hhost : Unmarked host.text)
    (hparts : AllUnmarked parts) :
    WellMarked ⟨scheme, username, password, some host, port, .segments parts, none, none⟩ where
  scheme := hscheme
  username := husername
  password := hpassword
  host := by
    intro h hh
    obtain rfl := Option.some.inj hh
    exact hhost
  path := hparts
  query := fun _ h => absurd h (Option.not_mem_none _)

/-- A URL without a host, query and fragment. -/
theorem wellMarked_withoutHost {scheme : String} {path : UrlPath} (hscheme : Unmarked scheme.toList)
    (hpath : PathUnmarked path) :
    WellMarked ⟨scheme, "", "", none, none, path, none, none⟩ where
  scheme := hscheme
  username := .nil
  password := .nil
  host := fun _ h => absurd h (Option.not_mem_none _)
  path := hpath
  query := fun _ h => absurd h (Option.not_mem_none _)

theorem wellMarked_fileUrl {host : Host} {parts : List String} (hhost : Unmarked host.text)
    (hparts : AllUnmarked parts) : (fileUrl host parts).WellMarked :=
  wellMarked_withHost (by simp [Unmarked]) .nil .nil hhost hparts

theorem unmarked_noHost : Unmarked noHost.text := .nil

/-- The characters of a scheme are letters, digits and three signs. -/
theorem toLower_ne {c : Char} (h : inScheme c = true) : c.toLower ≠ '?' ∧ c.toLower ≠ '#' := by
  have hne : ∀ {c d : Char}, 97 ≤ c.toNat → d.toNat < 97 → c ≠ d := by
    rintro c d hc hd rfl
    omega
  unfold Char.toLower
  split
  · rename_i hupper
    have hlow : 65 ≤ c.val.toNat := hupper.1
    have hhigh : c.val.toNat ≤ 90 := hupper.2
    have hval : (c.val + ('a'.val - 'A'.val)).toNat = c.val.toNat + 32 := by
      rw [UInt32.toNat_add, show ('a'.val - 'A'.val).toNat = 32 from rfl]
      exact Nat.mod_eq_of_lt (by omega)
    have hlower : 97 ≤ (c.val + ('a'.val - 'A'.val)).toNat := by omega
    exact ⟨hne hlower (by decide), hne hlower (by decide)⟩
  · refine ⟨?_, ?_⟩
    · rintro rfl
      exact absurd h (by decide)
    · rintro rfl
      exact absurd h (by decide)

theorem unmarked_scheme {cs rest : List Char} {scheme : String}
    (h : splitScheme cs = some (scheme, rest)) : Unmarked scheme.toList := by
  unfold splitScheme at h
  split at h
  · cases h
  · rename_i c cs
    split at h
    · rename_i hc
      split at h
      · obtain ⟨rfl, -⟩ := Prod.mk.inj (Option.some.inj h)
        rw [String.toList_ofList]
        intro d hd
        obtain ⟨e, he, rfl⟩ := List.mem_map.1 hd
        refine toLower_ne ?_
        rcases List.mem_cons.1 he with rfl | he
        · unfold inScheme Char.isAlphanum
          rw [hc]
          rfl
        · exact List.all_eq_true.1 List.all_takeWhile e he
      · cases h
    · cases h

/-- A path ends at the first of both signs. -/
theorem unmarked_tailPath (cs : List Char) : Unmarked (Tail.ofText cs).path := by
  intro c hc
  have hquestion := List.all_eq_true.1 List.all_takeWhile c hc
  have hnumber := List.all_eq_true.1 List.all_takeWhile c (List.takeWhile_subset _ hc)
  exact ⟨bne_iff_ne.1 hquestion, bne_iff_ne.1 hnumber⟩

theorem unmarked_credentials (cs : List Char) :
    Unmarked (credentials cs).1.toList ∧ Unmarked (credentials cs).2.toList := by
  unfold credentials
  dsimp only
  rw [String.toList_ofList, String.toList_ofList]
  exact ⟨unmarked_encode (by decide) (by decide) _, unmarked_encode (by decide) (by decide) _⟩

/-- Whatever is read has a property. -/
def Reads {α : Type} (P : α → Prop) (x : Except Failure α) : Prop := ∀ a, x = .ok a → P a

section Reads

variable {α β : Type} {P : α → Prop} {Q : β → Prop}

theorem reads_ok {a : α} (h : P a) : Reads P (.ok a) := by
  intro b hb
  obtain rfl := Except.ok.inj hb
  exact h

theorem reads_throw (f : Failure) (g : α → Except Failure β) : Reads Q (throw f >>= g) := by
  intro b h
  cases h

theorem Reads.bind {x : Except Failure α} {f : α → Except Failure β} (hx : Reads P x)
    (hf : ∀ a, P a → Reads Q (f a)) : Reads Q (x >>= f) := by
  intro b h
  cases x with
  | error e => cases h
  | ok a => exact hf a (hx a rfl) b h

theorem reads_any (x : Except Failure α) : Reads (fun _ => True) x := fun _ _ => trivial

end Reads

theorem reads_ofAuthority {scheme : String} (hscheme : Unmarked scheme.toList) (cs : List Char) :
    Reads WellMarked (ofAuthority scheme cs) := by
  unfold ofAuthority
  extract_lets special
  rcases splitCredentials special cs with ⟨userText, rest⟩
  dsimp -zeta only
  extract_lets withHost readHost checkHost
  have hwithHost : ∀ host, Unmarked host.text → Reads WellMarked (withHost host) := by
    intro host hhost
    unfold withHost
    extract_lets withPort readPort
    have hwithPort : ∀ p, Reads WellMarked (withPort p) := by
      intro p
      unfold withPort
      extract_lets tail path finish
      have hfinish : Reads WellMarked (finish ()) := by
        have hcredentials := unmarked_credentials (userText.getD [])
        have hparts := unmarked_rootedPath special tail.path
        exact reads_ok ((wellMarked_withHost hscheme hcredentials.1 hcredentials.2 hhost
          hparts).withTail tail)
      split
      · exact reads_throw _ _
      · exact hfinish
    have hreadPort : Reads WellMarked (readPort ()) := by
      unfold readPort
      split
      · exact (reads_any _).bind fun p _ => hwithPort p
      · exact (reads_any _).bind fun p _ => hwithPort p
    split
    · exact reads_throw _ _
    · exact hreadPort
  have hreadHost : Reads WellMarked (readHost ()) := by
    unfold readHost
    split
    · exact Reads.bind (fun _ h => Host.ofText?_unmarked h) hwithHost
    · exact Reads.bind (fun _ h => Host.ofPlainText?_unmarked h) hwithHost
  have hcheckHost : Reads WellMarked (checkHost ()) := by
    unfold checkHost
    split
    · exact reads_throw _ _
    · exact hreadHost
  split
  · exact reads_throw _ _
  · exact hcheckHost

/-! ## Files -/

theorem reads_fileWithHost (cs : List Char) : Reads WellMarked (fileWithHost cs) := by
  unfold fileWithHost
  extract_lets stop hostText rest tail parts driven finish
  have hparts : AllUnmarked parts := (unmarked_walk allUnmarked_start true _).reverse
  have hfinish : ∀ host, Unmarked host.text → Reads WellMarked (finish host) := by
    intro host hhost
    unfold finish
    split
    · exact reads_ok ((wellMarked_fileUrl unmarked_noHost
        (unmarked_fileSegments allUnmarked_start _)).withTail tail)
    · refine reads_ok ((wellMarked_fileUrl ?_ hparts.trimFront).withTail tail)
      split
      · exact unmarked_noHost
      · exact hhost
  split
  · exact Reads.bind (P := fun host : Host => Unmarked host.text) (reads_ok unmarked_noHost) hfinish
  · exact Reads.bind (fun _ h => Host.ofText?_unmarked h) hfinish

variable {base : Option Url}

theorem fileFromRoot_wellMarked (hbase : ∀ b ∈ base, b.WellMarked) (cs : List Char) :
    (fileFromRoot base cs).WellMarked := by
  unfold fileFromRoot
  extract_lets tail
  have hread : ∀ host parts, Unmarked host.text → AllUnmarked parts →
      (Url.withTail (fileUrl host (fileSegments parts tail.path)) tail).WellMarked :=
    fun host parts hhost hparts =>
      (wellMarked_fileUrl hhost (unmarked_fileSegments hparts _)).withTail tail
  cases base with
  | none => exact hread noHost [""] unmarked_noHost allUnmarked_start
  | some b =>
    have hb := hbase b rfl
    dsimp only
    split
    · exact hread noHost [""] unmarked_noHost allUnmarked_start
    · split
      · exact hread noHost _ unmarked_noHost
          (hb.path.parts.mono (List.take_subset 1 _)).cons_empty
      · refine hread _ [""] ?_ allUnmarked_start
        cases hhost : b.host with
        | none => exact unmarked_noHost
        | some host => exact hb.host host hhost

theorem fileRelative_wellMarked (hbase : ∀ b ∈ base, b.WellMarked) (cs : List Char) :
    (fileRelative base cs).WellMarked := by
  unfold fileRelative
  extract_lets tail fromStart
  have hstart : fromStart.WellMarked := (wellMarked_fileUrl unmarked_noHost
    (unmarked_fileSegments allUnmarked_start _)).withTail tail
  cases base with
  | none => exact hstart
  | some b =>
    have hb := hbase b rfl
    dsimp only
    split
    · exact hb.withFragment none
    · exact hb.withFragment _
    · exact hb.withTail tail
    · split
      · exact hstart
      · exact (hb.withPath (.segments _) (unmarked_fileSegments
          (hb.path.parts.reverse.shorten true) _)).withTail tail

theorem reads_ofFile (hbase : ∀ b ∈ base, b.WellMarked) (cs : List Char) :
    Reads WellMarked (ofFile base cs) := by
  unfold ofFile
  split
  · split
    · split
      · split
        · exact reads_fileWithHost _
        · exact reads_ok (fileFromRoot_wellMarked hbase _)
      · exact reads_ok (fileFromRoot_wellMarked hbase _)
    · exact reads_ok (fileRelative_wellMarked hbase _)
  · exact reads_ok (fileRelative_wellMarked hbase _)

/-! ## All URLs -/

theorem reads_ofRelative (hb : b.WellMarked) (cs : List Char) :
    Reads WellMarked (ofRelative b cs) := by
  unfold ofRelative
  extract_lets special tail
  have hpath : ∀ parts, AllUnmarked parts → ∀ cs : List Char, Reads WellMarked
      (.ok (Url.withTail { b with path := .segments (segments special parts cs) } tail)) :=
    fun parts hparts cs => reads_ok ((hb.withPath (.segments _)
      (unmarked_segments hparts special cs)).withTail tail)
  split
  · exact reads_ok (hb.withFragment none)
  · exact reads_ok (hb.withFragment _)
  · exact reads_ok (hb.withTail tail)
  · split
    · split
      · split
        · exact reads_ofAuthority hb.scheme _
        · exact reads_ofAuthority hb.scheme _
      · exact hpath _ allUnmarked_start _
    · exact hpath _ (hb.path.parts.reverse.shorten false).openSegment _

theorem reads_ofScheme (hbase : ∀ b ∈ base, b.WellMarked) {scheme : String}
    (hscheme : Unmarked scheme.toList) (cs : List Char) :
    Reads WellMarked (ofScheme base scheme cs) := by
  unfold ofScheme
  extract_lets sameScheme tail bare
  have hsame : ∀ b ∈ sameScheme, b.WellMarked := fun b hb =>
    hbase b (Option.filter_eq_some_iff.1 hb).1
  have hbare : ∀ path, PathUnmarked path → (bare path).WellMarked :=
    fun path hpath => (wellMarked_withoutHost hscheme hpath).withTail tail
  split
  · exact reads_ofFile hsame _
  · split
    · cases hb : sameScheme with
      | none => exact reads_ofAuthority hscheme _
      | some b =>
        dsimp only
        split
        · exact reads_ofRelative (hsame b hb) _
        · exact reads_ofAuthority hscheme _
    · split
      · exact reads_ofAuthority hscheme _
      · exact reads_ok (hbare (.segments _) (unmarked_segments allUnmarked_start false _))
      · refine reads_ok (hbare (.plain _) ?_)
        show Unmarked (String.ofList (encode isControl tail.path)).toList
        rw [String.toList_ofList]
        exact (unmarked_tailPath cs).encode

/-- Every URL that is read is well marked, if its base is. -/
theorem ofText?_wellMarked (hbase : ∀ b ∈ base, b.WellMarked) {text : String} {u : Url}
    (h : ofText? base text = .ok u) : u.WellMarked := by
  have hread : Reads WellMarked (ofText? base text) := by
    unfold ofText?
    extract_lets cs
    split
    · rename_i scheme rest hscheme
      exact reads_ofScheme hbase (unmarked_scheme hscheme) _
    · split
      · intro u h
        cases h
      · rename_i b
        have hb := hbase b rfl
        split
        · exact reads_ok (hb.withFragment _)
        · intro u h
          cases h
        · split
          · exact reads_ofFile hbase _
          · exact reads_ofRelative hb _
  exact hread u h

/-! ## A pair more -/

/-- A text with a pair more, at the end of what stands before its first number sign: behind a
    question mark if there is none yet, directly behind the first one if nothing follows it there,
    and behind an ampersand otherwise. -/
def insertPair (text pair : List Char) : List Char :=
  let front := text.takeWhile (· != '#')
  let mark := match front.dropWhile (· != '?') with
    | [] => ['?']
    | [_] => []
    | _ => ['&']
  front ++ mark ++ pair ++ text.dropWhile (· != '#')

/-- The first number sign of a URL is the one in front of its fragment. -/
theorem WellMarked.split_at_fragment (h : u.WellMarked) :
    u.text.toList.takeWhile (· != '#') = u.frontText ++ u.queryText ∧
      u.text.toList.dropWhile (· != '#') = u.fragmentText := by
  have hfront : ∀ c ∈ u.frontText ++ u.queryText, (c != '#') = true := by
    intro c hc
    rw [bne_iff_ne]
    rcases List.mem_append.1 hc with hfront | hquery
    · exact (unmarked_frontText h c hfront).2
    · unfold queryText at hquery
      rintro rfl
      cases hq : u.query with
      | none =>
        rw [hq] at hquery
        cases hquery
      | some q =>
        rw [hq] at hquery
        rcases List.mem_cons.1 hquery with hmark | hquery
        · exact absurd hmark (by decide)
        · exact h.query q hq hquery
  have hback : ∀ c ∈ u.fragmentText.head?, (c != '#') = false := by
    unfold fragmentText
    cases u.fragment with
    | none => simp [markedText]
    | some f => simp [markedText]
  unfold text
  rw [String.toList_ofList]
  exact ⟨Text.takeWhile_append_eq hfront hback, Text.dropWhile_append_eq hfront hback⟩

/-- The first question mark before the fragment is the one in front of the query. -/
theorem WellMarked.split_at_query (h : u.WellMarked) :
    (u.frontText ++ u.queryText).dropWhile (· != '?') = u.queryText := by
  refine Text.dropWhile_append_eq (fun c hc => bne_iff_ne.2 (unmarked_frontText h c hc).1) ?_
  unfold queryText
  cases u.query with
  | none => simp [markedText]
  | some q => simp [markedText]

/-- A pair more in the query is a pair more in the text. -/
theorem WellMarked.text_withPair (h : u.WellMarked) (name value : String) :
    (u.withPair name value).text.toList =
      insertPair u.text.toList (encodePair name.toList ++ '=' :: encodePair value.toList) := by
  obtain ⟨htake, hdrop⟩ := h.split_at_fragment
  unfold insertPair
  dsimp only
  rw [htake, hdrop, h.split_at_query]
  unfold text
  rw [String.toList_ofList]
  show u.frontText ++ '?' :: (String.ofList _).toList ++ u.fragmentText = _
  rw [String.toList_ofList]
  unfold addPair queryText
  cases u.query with
  | none => simp [markedText]
  | some q =>
    rcases hq : q.toList with _ | ⟨c, rest⟩
    · simp [markedText, hq]
    · simp [markedText, hq]

end LinkedCharts.Url
