import LinkedCharts.Json.Record
import LinkedCharts.Proofs.Binary64.Rounding
import Mathlib.Data.List.Forall2

/-!
# Numbers in a text are finite

A literal whose value is beyond the largest finite number has no value, and every other literal is
read as a finite number: digits are gathered only while they fit 64 bits, a power of ten that is
multiplied with is looked at once more, and dividing by one never leaves the finite numbers. So no
tree of a text holds an infinity or a NaN, whatever its shape.

Results:
* `Numeral.number?_isFinite`: the value of a literal is finite.
* `Token.scan?_finite`: so are all numbers among the tokens of a text.
* `Tree.Finite`, `Tree.parse?_finite`: and all numbers in its tree.
* `Tree.fields?_finite`, `Tree.items?_finite`, `Tree.real?_isFinite`: and all that is read from it.
-/

namespace LinkedCharts

/-! ## Rounding that stays finite -/

namespace Binary64

theorem fits_two_pow {k : Nat} (h : k < 2098) : Fits (2 ^ k) := by
  have hgrid := mul_two_pow_mod_spacing (q := 1) (k := k) (by decide)
  rw [Nat.one_mul] at hgrid
  refine ⟨?_, hgrid⟩
  unfold limit
  -- The power itself is not to be computed.
  generalize 2098 = top at h ⊢
  exact Nat.pow_lt_pow_right (by decide) h

/-- A power of two of units is a magnitude of the format. -/
theorem fits_units {k : Nat} (h : k < 1024) : Fits (2 ^ k * stepsPerOne) := by
  have hfits := fits_two_pow (k := k + 1074) (by omega)
  rwa [Nat.pow_add] at hfits

/-- A quotient that is not above a magnitude of the format rounds to a finite number. -/
theorem round_isFinite {num den n : Nat} (hden : 0 < den) (hn : Fits n) (h : num ≤ n * den)
    (s : Bool) : (round s num den).isFinite = true := by
  have hle : nearest num den ≤ n := by
    calc nearest num den ≤ nearest n 1 := nearest_mono hden Nat.one_pos (by omega)
      _ = n := nearest_of_grid hn.2
  unfold round
  rw [dif_pos (Nat.lt_of_le_of_lt hle hn.1)]
  rfl

/-- A count of units up to `2 ^ 64` rounds to a finite number. -/
theorem round_word_isFinite {n : Nat} (h : n ≤ 2 ^ 64) (s : Bool) :
    (round s (n * stepsPerOne) 1).isFinite = true := by
  refine round_isFinite Nat.one_pos (fits_units (k := 64) (by decide)) ?_ s
  rw [Nat.mul_one]
  exact Nat.mul_le_mul_right stepsPerOne h

theorem ofNat_isFinite {n : Nat} (h : n ≤ 2 ^ 64) : (ofNat n).isFinite = true :=
  round_word_isFinite h false

theorem ofInt_isFinite {i : Int} (h : i.natAbs ≤ 2 ^ 64) : (ofInt i).isFinite = true :=
  round_word_isFinite h _

/-- A natural from one on is rounded to one at least. -/
theorem stepsPerOne_le_nearest {n : Nat} (h : 0 < n) :
    stepsPerOne ≤ nearest (n * stepsPerOne) 1 := by
  have hunit := fits_units (k := 0) (by decide)
  rw [Nat.pow_zero, Nat.one_mul] at hunit
  calc stepsPerOne = nearest stepsPerOne 1 := (nearest_of_grid hunit.2).symm
    _ ≤ nearest (n * stepsPerOne) 1 := by
      apply nearest_mono Nat.one_pos Nat.one_pos
      rw [Nat.mul_one, Nat.mul_one]
      exact Nat.le_mul_of_pos_left _ h

/-- Dividing by a natural from one on does not leave the finite numbers, also where the natural is
    rounded to an infinity. -/
theorem div_ofNat_isFinite {x : Binary64} {n : Nat} (hx : x.isFinite = true) (h : 0 < n) :
    (x / ofNat n).isFinite = true := by
  have hone := stepsPerOne_le_nearest h
  have hpos := stepsPerOne_pos
  show (Binary64.div x (round false _ _)).isFinite = true
  cases x with
  | finite s m hm =>
    unfold round
    split
    · simp only [Binary64.div]
      rw [if_neg (by omega)]
      exact round_isFinite (by omega) hm (Nat.mul_le_mul_left m hone) _
    · rfl
  | infinite s => cases hx
  | nan => cases hx

end Binary64

namespace Json

/-! ## Literals -/

namespace Numeral

/-- What is gathered fits 64 bits. -/
theorem gather_lt {n : Nat} (h : n < wordLimit) (ds : List Nat) : (gather n ds).1 < wordLimit := by
  induction ds generalizing n with
  | nil => exact h
  | cons d ds ih =>
    unfold gather
    split_ifs with hd
    · exact ih hd
    · exact h

theorem div_powerOfTen_isFinite {x : Binary64} (hx : x.isFinite = true) (k : Nat) :
    (x / powerOfTen k).isFinite = true :=
  Binary64.div_ofNat_isFinite hx (Nat.pow_pos (by decide))

/-- A finite number times a power of ten is finite, if it has a value at all. -/
theorem scaled_isFinite {x y : Binary64} {e : Int} (hx : x.isFinite = true)
    (h : scaled x e = some y) : y.isFinite = true := by
  fun_induction scaled x e with
  | case1 x e _ _ r hr =>
    obtain rfl : r = y := Option.some.inj h
    exact hr
  | case2 => cases h
  | case3 x e _ _ =>
    cases h
    exact div_powerOfTen_isFinite hx _
  | case4 x e _ _ =>
    cases h
    exact hx
  | case5 => cases h
  | case6 x e _ _ _ ih => exact ih (div_powerOfTen_isFinite hx _) h

theorem real?_isFinite {l : Numeral} {x : Binary64} (h : l.real? = some x) :
    x.isFinite = true := by
  have hzero : 0 < wordLimit := Nat.two_pow_pos 64
  have hword {n : Nat} (hn : n < wordLimit) : (Binary64.ofNat n).isFinite = true :=
    Binary64.ofNat_isFinite (Nat.le_of_lt hn)
  have hlead := gather_lt hzero l.whole
  unfold real? at h
  obtain ⟨y, hy, rfl⟩ := Option.map_eq_some_iff.1 h
  have hfinite : y.isFinite = true := by
    refine scaled_isFinite ?_ hy
    cases l.fraction with
    | none => exact hword hlead
    | some ds => exact hword (gather_lt hlead ds)
  split_ifs
  · rw [Binary64.isFinite_neg, hfinite]
  · exact hfinite

/-- A literal that has a value has a finite one, also where it is a whole number that is rounded. -/
theorem number?_isFinite {l : Numeral} {n : Number} (h : l.number? = some n) :
    n.toBinary64.isFinite = true := by
  unfold number? at h
  dsimp only at h
  obtain ⟨⟨-, -, hbound⟩, h⟩ | ⟨-, h⟩ := ite_eq_iff.1 h
  · obtain rfl := Option.some.inj h
    refine Binary64.ofInt_isFinite ?_
    unfold wordLimit at hbound
    split_ifs at hbound ⊢ <;> omega
  · obtain ⟨x, hx, rfl⟩ := Option.map_eq_some_iff.1 h
    exact real?_isFinite hx

end Numeral

/-! ## Loops that may fail -/

/-- What holds at first and is kept by every step holds at the end. -/
theorem foldlM_keeps {σ α : Type} {P : σ → Prop} {f : σ → α → Option σ} {xs : List α}
    (hstep : ∀ s, ∀ x ∈ xs, ∀ s', P s → f s x = some s' → P s') {s s' : σ} (hs : P s)
    (h : xs.foldlM f s = some s') : P s' := by
  induction xs generalizing s with
  | nil =>
    cases h
    exact hs
  | cons x xs ih =>
    rw [List.foldlM_cons] at h
    obtain ⟨t, ht, h⟩ := Option.bind_eq_some_iff.1 h
    exact ih (fun s x hx => hstep s x (List.mem_cons_of_mem _ hx))
      (hstep s x List.mem_cons_self t hs ht) h

/-- Reading all items of a list is reading each of them. -/
theorem mapM_eq_some_iff {α β : Type} {f : α → Option β} {xs : List α} {ys : List β} :
    xs.mapM f = some ys ↔ List.Forall₂ (fun x y => f x = some y) xs ys := by
  induction xs generalizing ys with
  | nil => cases ys <;> simp
  | cons x xs ih =>
    rw [List.mapM_cons]
    constructor
    · intro h
      obtain ⟨y, hy, h⟩ := Option.bind_eq_some_iff.1 h
      obtain ⟨rest, hrest, h⟩ := Option.bind_eq_some_iff.1 h
      obtain rfl := Option.some.inj h
      exact .cons hy (ih.1 hrest)
    · intro h
      cases h with
      | cons hy hrest => simp [hy, ih.2 hrest]

/-- Every result of reading a list belongs to an item of it. -/
theorem exists_of_mem_mapM {α β : Type} {f : α → Option β} {xs : List α} {ys : List β}
    (h : xs.mapM f = some ys) {y : β} (hy : y ∈ ys) : ∃ x ∈ xs, f x = some y := by
  have hall := mapM_eq_some_iff.1 h
  clear h
  induction hall with
  | nil => cases hy
  | cons hxy _ ih =>
    rcases List.mem_cons.1 hy with rfl | hy
    · exact ⟨_, List.mem_cons_self, hxy⟩
    · obtain ⟨x, hx, hxy⟩ := ih hy
      exact ⟨x, List.mem_cons_of_mem _ hx, hxy⟩

/-! ## Tokens -/

namespace Token

/-- The token is no number, or one without a value or with a finite one. -/
def Finite : Token → Prop
  | .number (some n) => n.toBinary64.isFinite = true
  | _ => True

namespace Scan

variable {s s' : Scan}

/-- All tokens read so far are finite. -/
def Finite (s : Scan) : Prop := ∀ t ∈ s.tokens, t.Finite

theorem start_finite : start.Finite := fun _ h => absurd h List.not_mem_nil

theorem Finite.push (hs : s.Finite) {t : Token} (ht : t.Finite) : (s.push t).Finite := by
  intro u hu
  rcases List.mem_cons.1 hu with rfl | hu
  · exact ht
  · exact hs u hu

/-- The cases of a long choice are looked at one by one, without the conditions that failed
    before. -/
theorem finite_ite {P : Prop} [Decidable P] {a b : Option Scan} (ha : ∀ r ∈ a, r.Finite)
    (hb : ∀ r ∈ b, r.Finite) : ∀ r ∈ if P then a else b, r.Finite := by
  split
  · exact ha
  · exact hb

theorem Finite.between (hs : s.Finite) {c : Char} (h : s.between c = some s') : s'.Finite := by
  have hall : ∀ r ∈ s.between c, r.Finite := by
    unfold Scan.between
    repeat' apply finite_ite
    all_goals rintro r ⟨⟩
    all_goals first | exact hs | exact hs.push trivial
  exact hall s' h

theorem Finite.endWord (hs : s.Finite) (h : s.endWord = some s') : s'.Finite := by
  unfold Scan.endWord at h
  split at h
  · cases h
    exact hs
  · split at h <;> cases h <;> exact hs.push trivial
  · obtain ⟨l, -, rfl⟩ := Option.map_eq_some_iff.1 h
    refine hs.push ?_
    cases hn : l.number? with
    | none => trivial
    | some n => exact Numeral.number?_isFinite hn
  all_goals cases h

/-- A character further, a whole token at most is read. -/
theorem Finite.step (hs : s.Finite) {c : Char} (h : s.step c = some s') : s'.Finite := by
  have hword (h : s.endWord.bind (·.between c) = some s') : s'.Finite := by
    obtain ⟨t, ht, h⟩ := Option.bind_eq_some_iff.1 h
    exact (hs.endWord ht).between h
  unfold Scan.step at h
  split at h
  · exact hs.between h
  · split_ifs at h
    · cases h
      exact hs
    · exact hword h
  · split_ifs at h
    · cases h
      exact hs
    · exact hword h
  · split_ifs at h <;> cases h
    all_goals first | exact hs | exact hs.push trivial
  · split_ifs at h
    · cases h
      exact hs
    · obtain ⟨d, -, rfl⟩ := Option.map_eq_some_iff.1 h
      exact hs
  · obtain ⟨d, -, rfl⟩ := Option.map_eq_some_iff.1 h
    dsimp only
    split_ifs <;> exact hs

end Scan

theorem scan?_finite {text : List Char} {tokens : List Token} (h : scan? text = some tokens) :
    ∀ t ∈ tokens, t.Finite := by
  unfold scan? at h
  obtain ⟨s, hs, rfl⟩ := Option.map_eq_some_iff.1 h
  obtain ⟨r, hr, hs⟩ := Option.bind_eq_some_iff.1 hs
  have hfinite : r.Finite :=
    foldlM_keeps (fun _ _ _ _ hs h => hs.step h) Scan.start_finite hr
  intro t ht
  exact hfinite.endWord hs t (List.mem_reverse.1 ht)

end Token

/-! ## Trees -/

namespace Tree

/-- All numbers in the tree that have a value have a finite one. -/
inductive Finite : Tree → Prop
  | null : Finite .null
  | bool (b : Bool) : Finite (.bool b)
  | number (n : Option Number) (h : ∀ m ∈ n, m.toBinary64.isFinite = true) : Finite (.number n)
  | string (s : Option String) : Finite (.string s)
  | array (items : List Tree) (h : ∀ t ∈ items, Finite t) : Finite (.array items)
  | object (members : List (Option String × Tree)) (h : ∀ m ∈ members, Finite m.2) :
      Finite (.object members)

/-- What an open container holds so far is finite. -/
def Open.Finite : Open → Prop
  | .array items => ∀ t ∈ items, t.Finite
  | .object members _ => ∀ m ∈ members, m.2.Finite

namespace Parse

variable {p p' : Parse} {stack : List Open} {t : Token}

/-- What has been read is finite: the content of the open containers, and the whole if it is
    there. -/
structure Finite (p : Parse) : Prop where
  stack : ∀ o ∈ p.stack, o.Finite
  whole : ∀ t, p.expect = .nothing t → t.Finite

theorem start_finite : start.Finite := ⟨fun _ h => absurd h List.not_mem_nil, nofun⟩

theorem place_finite (hs : ∀ o ∈ stack, o.Finite) {t : Tree} (ht : t.Finite) :
    (place t stack).Finite := by
  match stack with
  | [] =>
    refine ⟨nofun, fun u hu => ?_⟩
    cases hu
    exact ht
  | .array items :: rest =>
    obtain ⟨hitems, hrest⟩ := List.forall_mem_cons.1 hs
    exact ⟨List.forall_mem_cons.2 ⟨List.forall_mem_cons.2 ⟨ht, hitems⟩, hrest⟩, nofun⟩
  | .object members key :: rest =>
    obtain ⟨hmembers, hrest⟩ := List.forall_mem_cons.1 hs
    exact ⟨List.forall_mem_cons.2 ⟨List.forall_mem_cons.2 ⟨ht, hmembers⟩, hrest⟩, nofun⟩

theorem value_finite (hs : ∀ o ∈ stack, o.Finite) (ht : t.Finite) (h : value stack t = some p) :
    p.Finite := by
  cases t with
  | null => cases h; exact place_finite hs .null
  | bool b => cases h; exact place_finite hs (.bool b)
  | number n =>
    cases h
    refine place_finite hs (.number n ?_)
    rintro m rfl
    exact ht
  | string s => cases h; exact place_finite hs (.string s)
  | openArray =>
    cases h
    exact ⟨List.forall_mem_cons.2 ⟨nofun, hs⟩, nofun⟩
  | openObject =>
    cases h
    exact ⟨List.forall_mem_cons.2 ⟨nofun, hs⟩, nofun⟩
  | closeArray | closeObject | comma | colon => cases h

theorem key_finite (hs : ∀ o ∈ stack, o.Finite) (h : key stack t = some p) : p.Finite := by
  unfold key at h
  split at h <;> cases h
  obtain ⟨hmembers, hrest⟩ := List.forall_mem_cons.1 hs
  exact ⟨List.forall_mem_cons.2 ⟨hmembers, hrest⟩, nofun⟩

theorem close_finite (hs : ∀ o ∈ stack, o.Finite) (h : close stack t = some p) : p.Finite := by
  unfold close at h
  split at h <;> cases h
  all_goals obtain ⟨hcontent, hrest⟩ := List.forall_mem_cons.1 hs
  · exact place_finite hrest (.array _ fun t ht => hcontent t (List.mem_reverse.1 ht))
  · exact place_finite hrest (.object _ fun m hm => hcontent m (List.mem_reverse.1 hm))

theorem Finite.step (hp : p.Finite) (ht : t.Finite) (h : p.step t = some p') : p'.Finite := by
  have hs := hp.stack
  unfold Parse.step at h
  split at h
  · exact value_finite hs ht h
  · split_ifs at h
    · exact close_finite hs h
    · exact value_finite hs ht h
  · split_ifs at h
    · exact close_finite hs h
    · exact key_finite hs h
  · exact key_finite hs h
  · split_ifs at h
    cases h
    exact ⟨hs, nofun⟩
  · split_ifs at h
    · split at h <;> cases h <;> exact ⟨hs, nofun⟩
    · exact close_finite hs h
  · cases h

end Parse

/-- No number in the tree of a text is beyond the finite ones. -/
theorem parse?_finite {text : String} {t : Tree} (h : parse? text = some t) : t.Finite := by
  unfold parse? at h
  obtain ⟨tokens, htokens, h⟩ := Option.bind_eq_some_iff.1 h
  have hfinite := Token.scan?_finite htokens
  unfold ofTokens? at h
  obtain ⟨p, hp, h⟩ := Option.bind_eq_some_iff.1 h
  have hparse : p.Finite :=
    foldlM_keeps (fun _ t ht _ hp h => hp.step (hfinite t ht) h) Parse.start_finite hp
  split at h
  · rename_i whole hwhole
    cases h
    exact hparse.whole t hwhole
  · cases h

/-! ## Reading finite trees -/

variable {t : Tree}

theorem real?_isFinite (ht : t.Finite) {x : Binary64} (h : t.real? = some x) :
    x.isFinite = true := by
  cases ht with
  | number n hn =>
    cases n with
    | none => cases h
    | some n =>
      cases h
      exact hn n rfl
  | null | bool | string | array | object => cases h

theorem items?_finite (ht : t.Finite) {items : List Tree} (h : t.items? = some items) :
    ∀ u ∈ items, u.Finite := by
  cases ht with
  | array items hitems =>
    cases h
    exact hitems
  | null | bool | number | string | object => cases h

theorem member?_finite {members : List (Option String × Tree)} (hm : ∀ m ∈ members, m.2.Finite)
    {name : String} {field : Option Tree} (h : member? members name = some field) :
    ∀ u ∈ field, u.Finite := by
  unfold member? at h
  split at h
  · cases h
    rintro u ⟨⟩
  · rename_i k v hfilter
    cases h
    rintro u hu
    obtain rfl := Option.some.inj hu
    have hmem : (k, v) ∈ members.filter (fun m => m.1 = some name) := by simp [hfilter]
    exact hm _ (List.mem_filter.1 hmem).1
  · cases h

theorem fields?_array (names : List String) (items : List Tree) :
    (array items).fields? names = if items.length ≤ names.length then
      some (items.map some ++ List.replicate (names.length - items.length) none) else none := rfl

theorem fields?_object (names : List String) (members : List (Option String × Tree)) :
    (object members).fields? names =
      if members.all (fun m => m.1.isSome) then names.mapM (member? members) else none := rfl

/-- Every field of a record in a finite tree is finite. -/
theorem fields?_finite (ht : t.Finite) {names : List String} {fields : List (Option Tree)}
    (h : t.fields? names = some fields) : ∀ f ∈ fields, ∀ u ∈ f, u.Finite := by
  cases ht with
  | array items hitems =>
    rw [fields?_array] at h
    split_ifs at h
    cases h
    intro f hf u hu
    rcases List.mem_append.1 hf with hf | hf
    · obtain ⟨v, hv, rfl⟩ := List.mem_map.1 hf
      cases hu
      exact hitems u hv
    · rw [(List.mem_replicate.1 hf).2] at hu
      cases hu
  | object members hm =>
    rw [fields?_object] at h
    split_ifs at h
    intro f hf
    obtain ⟨name, -, hname⟩ := exists_of_mem_mapM h hf
    exact member?_finite hm hname
  | null | bool | number | string => cases h

end Tree

end Json

end LinkedCharts
