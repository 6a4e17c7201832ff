import Mathlib.Data.List.Forall2
import Tidemark.Engine.Row
import Tidemark.Proofs.Json.Record

/-!
# Readers that agree

Two readers of one text agree if, wherever both of them read something, they leave the same text
and have read related things (`Agree`).  Readers of sequences and objects agree if the readers of
their parts do.  So passing over a value ends where reading it ends (`agree_value_skip`), and what
the decoders for sequences, objects and records read are the parts of the value that stands there
(`Agree.list`, `agree_row_value`, `Agree.record`).
-/

namespace Tidemark.Json.Decoder

variable {α β κ κ' σ : Type}

/-- Wherever two readers both read something, they have read related things and leave the same
text. -/
def Agree (p : α → β → Prop) (f : List Char → Except Fault (α × List Char))
    (g : List Char → Except Fault (β × List Char)) : Prop :=
  ∀ ⦃cs a b rest rest'⦄, f cs = .ok (a, rest) → g cs = .ok (b, rest') → p a b ∧ rest = rest'

/-! ### The parts of containers -/

/-- The items that a reader of items finds up to a closing bracket, and where it ends. -/
inductive FindsItems (f : List Char → Except Fault (α × List Char)) :
    Bool → List Char → List α → List Char → Prop
  | close {first : Bool} {cs : List Char} (hnext : nextItem first cs = .ok none) :
      FindsItems f first cs [] cs
  | item {first : Bool} {cs cs₁ cs₂ rest : List Char} {v : α} {vs : List α}
      (hnext : nextItem first cs = .ok (some cs₁)) (hv : f cs₁ = .ok (v, cs₂))
      (hlater : FindsItems f false cs₂ vs rest) : FindsItems f first cs (v :: vs) rest

/-- The members that a reader of keys and values finds up to a closing brace, and where it ends. -/
inductive FindsMembers (kf : List Char → Except Fault (κ × List Char))
    (f : List Char → Except Fault (α × List Char)) :
    Bool → List Char → List (κ × α) → List Char → Prop
  | close {first : Bool} {cs : List Char} (hnext : nextKey first cs = .ok none) :
      FindsMembers kf f first cs [] cs
  | member {first : Bool} {cs cs₁ cs₂ cs₃ cs₄ rest : List Char} {k : κ} {v : α}
      {ms : List (κ × α)} (hnext : nextKey first cs = .ok (some cs₁)) (hk : kf cs₁ = .ok (k, cs₂))
      (hcolon : colon cs₂ = .ok cs₃) (hv : f cs₃ = .ok (v, cs₄))
      (hlater : FindsMembers kf f false cs₄ ms rest) :
      FindsMembers kf f first cs ((k, v) :: ms) rest

variable {f : List Char → Except Fault (α × List Char)}

lemma findsItems_of_items {n : Nat} {first : Bool} {cs rest : List Char} {vs : List α}
    (h : items f n first cs = .ok (vs, rest)) : FindsItems f first cs vs rest := by
  induction n generalizing first cs vs with
  | zero => cases h
  | succ n ih =>
    rw [items] at h
    obtain ⟨next, hnext, h⟩ := exists_of_bind_eq_ok h
    cases next with
    | none =>
      cases h
      exact .close hnext
    | some cs₁ =>
      obtain ⟨⟨v, cs₂⟩, hv, h⟩ := exists_of_bind_eq_ok h
      obtain ⟨⟨vs, cs₃⟩, hlater, h⟩ := exists_of_bind_eq_ok h
      cases h
      exact .item hnext hv (ih hlater)

lemma findsMembers_of_members {kf : List Char → Except Fault (κ × List Char)} {n : Nat}
    {first : Bool} {cs rest : List Char} {ms : List (κ × α)}
    (h : members kf f n first cs = .ok (ms, rest)) : FindsMembers kf f first cs ms rest := by
  induction n generalizing first cs ms with
  | zero => cases h
  | succ n ih =>
    rw [members] at h
    obtain ⟨next, hnext, h⟩ := exists_of_bind_eq_ok h
    cases next with
    | none =>
      cases h
      exact .close hnext
    | some cs₁ =>
      obtain ⟨⟨k, cs₂⟩, hk, h⟩ := exists_of_bind_eq_ok h
      obtain ⟨cs₃, hcolon, h⟩ := exists_of_bind_eq_ok h
      obtain ⟨⟨v, cs₄⟩, hv, h⟩ := exists_of_bind_eq_ok h
      obtain ⟨⟨ms, cs₅⟩, hlater, h⟩ := exists_of_bind_eq_ok h
      cases h
      exact .member hnext hk hcolon hv (ih hlater)

variable {p : α → β → Prop} {g : List Char → Except Fault (β × List Char)}

/-- Readers of items agree on sequences of items. -/
lemma Agree.items (h : Agree p f g) (n n' : Nat) (first : Bool) :
    Agree (List.Forall₂ p) (items f n first) (items g n' first) := by
  intro cs vs ws rest rest' hf hg
  have hfinds := findsItems_of_items hf
  have hfinds' := findsItems_of_items hg
  clear hf hg
  induction hfinds generalizing ws with
  | close hnext =>
    cases hfinds' with
    | close => exact ⟨.nil, rfl⟩
    | item hnext' => cases hnext.symm.trans hnext'
  | item hnext hv hlater ih =>
    cases hfinds' with
    | close hnext' => cases hnext.symm.trans hnext'
    | item hnext' hw hlater' =>
      cases hnext.symm.trans hnext'
      obtain ⟨hp, rfl⟩ := h hv hw
      obtain ⟨hps, hrest⟩ := ih hlater'
      exact ⟨.cons hp hps, hrest⟩

/-- Readers of keys and values agree on sequences of members. -/
lemma Agree.members {q : κ → κ' → Prop} {kf : List Char → Except Fault (κ × List Char)}
    {kg : List Char → Except Fault (κ' × List Char)} (hkey : Agree q kf kg) (h : Agree p f g)
    (n n' : Nat) (first : Bool) :
    Agree (List.Forall₂ fun m m' => q m.1 m'.1 ∧ p m.2 m'.2) (members kf f n first)
      (members kg g n' first) := by
  intro cs ms ms' rest rest' hf hg
  have hfinds := findsMembers_of_members hf
  have hfinds' := findsMembers_of_members hg
  clear hf hg
  induction hfinds generalizing ms' with
  | close hnext =>
    cases hfinds' with
    | close => exact ⟨.nil, rfl⟩
    | member hnext' => cases hnext.symm.trans hnext'
  | member hnext hk hcolon hv hlater ih =>
    cases hfinds' with
    | close hnext' => cases hnext.symm.trans hnext'
    | member hnext' hk' hcolon' hv' hlater' =>
      cases hnext.symm.trans hnext'
      obtain ⟨hq, rfl⟩ := hkey hk hk'
      cases hcolon.symm.trans hcolon'
      obtain ⟨hp, rfl⟩ := h hv hv'
      obtain ⟨hps, hrest⟩ := ih hlater'
      exact ⟨.cons ⟨hq, hp⟩ hps, hrest⟩

/-! ### Passing over values -/

/-- Passing over an escape of four digits. -/
lemma skipStringBody_word {a b c d : Char} {n : Nat} (h : Scan.hexWord? a b c d = some n)
    (cs : List Char) :
    Scan.skipStringBody ('\\' :: 'u' :: a :: b :: c :: d :: cs) = Scan.skipStringBody cs := by
  rw [Scan.skipStringBody, h]

/-- Where the inside of a string is read, passing over it ends at the same place. -/
lemma skipStringBody_of_stringBody {cs s rest : List Char}
    (h : Scan.stringBody cs = .ok (s, rest)) : Scan.skipStringBody cs = .ok rest := by
  fun_induction Scan.stringBody cs generalizing s with
  | case1 | case3 | case5 | case7 | case8 | case10 => cases h
  | case2 cs =>
    cases h
    rw [Scan.skipStringBody]
  | case4 a b c d cs x hx ih =>
    obtain ⟨n, hn, -⟩ := Option.bind_eq_some_iff.1 hx
    obtain ⟨⟨s, rest⟩, hbody, heq⟩ := exists_of_map_eq_ok h
    cases heq
    rw [skipStringBody_word hn, ih hbody]
  | case6 a b c d n hn e f g h' cs x hx ih =>
    obtain ⟨m, hm, -⟩ := Option.bind_eq_some_iff.1 hn
    obtain ⟨l, hl, -⟩ := Option.bind_eq_some_iff.1 hx
    obtain ⟨⟨s, rest⟩, hbody, heq⟩ := exists_of_map_eq_ok h
    cases heq
    rw [skipStringBody_word hm, skipStringBody_word hl, ih hbody]
  | case9 c cs hword x hx ih =>
    obtain ⟨⟨s, rest⟩, hbody, heq⟩ := exists_of_map_eq_ok h
    cases heq
    rw [Scan.skipStringBody, hx]
    · exact ih hbody
    · exact hword
  | case11 c cs hquote hword hshort hc ih =>
    obtain ⟨⟨s, rest⟩, hbody, heq⟩ := exists_of_map_eq_ok h
    cases heq
    rw [Scan.skipStringBody, if_neg hc]
    · exact ih hbody
    · exact hquote
    · exact hword
    · exact hshort

/-- Reading a key agrees with passing over it. -/
lemma agree_key_skipKey : Agree (fun _ _ => True) key skipKey := by
  intro cs k u rest rest' h h'
  obtain ⟨⟨s, rest⟩, hbody, heq⟩ := exists_of_map_eq_ok h
  obtain ⟨-, rfl⟩ := Prod.mk.inj heq
  obtain ⟨rest'', hskip, heq'⟩ := exists_of_map_eq_ok h'
  obtain ⟨-, rfl⟩ := Prod.mk.inj heq'
  rw [skipStringBody_of_stringBody hbody] at hskip
  exact ⟨trivial, Except.ok.inj hskip⟩

/-- A character that begins something else than a number. -/
def beginsOther (c : Char) : Bool :=
  c = 'n' || c = 't' || c = 'f' || c = '"' || c = '[' || c = '\x7b'

/-- The value that a reader of values finds, and where it ends. -/
inductive FindsValue : Nat → List Char → Json → List Char → Prop
  | null {depth : Nat} {cs cs₁ rest : List Char} (hfirst : Scan.skipSpace cs = 'n' :: cs₁)
      (hword : Scan.expect ['u', 'l', 'l'] cs₁ = .ok rest) : FindsValue depth cs .null rest
  | true {depth : Nat} {cs cs₁ rest : List Char} (hfirst : Scan.skipSpace cs = 't' :: cs₁)
      (hword : Scan.expect ['r', 'u', 'e'] cs₁ = .ok rest) : FindsValue depth cs (.bool true) rest
  | false {depth : Nat} {cs cs₁ rest : List Char} (hfirst : Scan.skipSpace cs = 'f' :: cs₁)
      (hword : Scan.expect ['a', 'l', 's', 'e'] cs₁ = .ok rest) :
      FindsValue depth cs (.bool false) rest
  | string {depth : Nat} {cs cs₁ s rest : List Char} (hfirst : Scan.skipSpace cs = '"' :: cs₁)
      (hbody : Scan.stringBody cs₁ = .ok (s, rest)) :
      FindsValue depth cs (.string (String.ofList s)) rest
  | array {depth : Nat} {cs cs₁ cs₂ rest : List Char} {vs : List Json}
      (hfirst : Scan.skipSpace cs = '[' :: cs₁)
      (hitems : items (value depth) (cs₁.length + 1) Bool.true cs₁ = .ok (vs, cs₂))
      (hclose : closeItems cs₂ = .ok rest) : FindsValue (depth + 1) cs (.array vs) rest
  | object {depth : Nat} {cs cs₁ cs₂ rest : List Char} {ms : List (String × Json)}
      (hfirst : Scan.skipSpace cs = '\x7b' :: cs₁)
      (hmembers : members key (value depth) (cs₁.length + 1) Bool.true cs₁ = .ok (ms, cs₂))
      (hclose : closeMembers cs₂ = .ok rest) :
      FindsValue (depth + 1) cs (Json.ofMembers ms) rest
  | number {depth : Nat} {cs rest : List Char} {n : Numeral}
      (hother : ∀ c ∈ (Scan.skipSpace cs).head?, beginsOther c = Bool.false)
      (hnumeral : Scan.numeral (Scan.skipSpace cs) = .ok (n, rest)) :
      FindsValue depth cs (.number n) rest

/-- What is read as a value is found as one. -/
lemma findsValue_of_value {depth : Nat} {cs rest : List Char} {v : Json}
    (h : value depth cs = .ok (v, rest)) : FindsValue depth cs v rest := by
  rw [value] at h
  split at h
  next hfirst =>
    obtain ⟨_, hword, heq⟩ := exists_of_map_eq_ok h
    cases heq
    exact .null hfirst hword
  next hfirst =>
    obtain ⟨_, hword, heq⟩ := exists_of_map_eq_ok h
    cases heq
    exact .true hfirst hword
  next hfirst =>
    obtain ⟨_, hword, heq⟩ := exists_of_map_eq_ok h
    cases heq
    exact .false hfirst hword
  next hfirst =>
    obtain ⟨⟨_, _⟩, hbody, heq⟩ := exists_of_map_eq_ok h
    cases heq
    exact .string hfirst hbody
  next hfirst =>
    cases depth with
    | zero => cases h
    | succ depth =>
      obtain ⟨⟨vs, cs₂⟩, hitems, h⟩ := exists_of_bind_eq_ok h
      obtain ⟨cs₃, hclose, h⟩ := exists_of_bind_eq_ok h
      cases h
      exact .array hfirst hitems hclose
  next hfirst =>
    cases depth with
    | zero => cases h
    | succ depth =>
      obtain ⟨⟨ms, cs₂⟩, hmembers, h⟩ := exists_of_bind_eq_ok h
      obtain ⟨cs₃, hclose, h⟩ := exists_of_bind_eq_ok h
      cases h
      exact .object hfirst hmembers hclose
  next hnull htrue hfalse hstring harray hobject =>
    obtain ⟨⟨n, _⟩, hnumeral, heq⟩ := exists_of_map_eq_ok h
    cases heq
    refine .number (fun c hc => ?_) hnumeral
    obtain ⟨ds, hds⟩ := List.head?_eq_some_iff.1 hc
    simp only [beginsOther, Bool.or_eq_false_iff, decide_eq_false_iff_not]
    refine ⟨⟨⟨⟨⟨?_, ?_⟩, ?_⟩, ?_⟩, ?_⟩, ?_⟩ <;> rintro rfl
    · exact hnull ds hds
    · exact htrue ds hds
    · exact hfalse ds hds
    · exact hstring ds hds
    · exact harray ds hds
    · exact hobject ds hds

lemma beginsOther_of_eq_cons {cs ds : List Char} {c : Char}
    (h : ∀ c ∈ (Scan.skipSpace cs).head?, beginsOther c = false)
    (hfirst : Scan.skipSpace cs = c :: ds) : beginsOther c = false := by
  apply h
  rw [hfirst]
  rfl

/-- What begins as a number is passed over as one. -/
lemma skipWithin_of_other {cs : List Char}
    (h : ∀ c ∈ (Scan.skipSpace cs).head?, beginsOther c = false) (depth : Nat) :
    skipWithin depth cs = (Scan.literal (Scan.skipSpace cs)).map fun r => ((), r.2) := by
  rw [skipWithin]
  split
  · next hfirst => cases beginsOther_of_eq_cons h hfirst
  · next hfirst => cases beginsOther_of_eq_cons h hfirst
  · next hfirst => cases beginsOther_of_eq_cons h hfirst
  · next hfirst => cases beginsOther_of_eq_cons h hfirst
  · next hfirst => cases beginsOther_of_eq_cons h hfirst
  · next hfirst => cases beginsOther_of_eq_cons h hfirst
  · rfl

/-- A number that is read is a literal, and ends where the literal ends. -/
lemma literal_of_numeral {cs rest : List Char} {n : Numeral}
    (h : Scan.numeral cs = .ok (n, rest)) :
    ∃ l, Scan.literal cs = .ok (l, rest) ∧ l.numeral? = some n := by
  obtain ⟨⟨l, cs₁⟩, hl, h⟩ := exists_of_bind_eq_ok h
  dsimp only at h
  split at h
  next hn =>
    cases h
    exact ⟨l, hl, hn⟩
  next => cases h

/-- Passing over a value ends where reading it ends. -/
lemma agree_value_skipWithin (depth depth' : Nat) :
    Agree (fun _ _ => True) (value depth) (skipWithin depth') := by
  intro cs v u rest rest' h h'
  refine ⟨trivial, ?_⟩
  induction depth using Nat.strongRecOn generalizing depth' cs v u rest rest' with
  | ind depth ih =>
    cases findsValue_of_value h with
    | null hfirst hword =>
      simp only [skipWithin, hfirst, hword] at h'
      cases h'
      rfl
    | true hfirst hword =>
      simp only [skipWithin, hfirst, hword] at h'
      cases h'
      rfl
    | false hfirst hword =>
      simp only [skipWithin, hfirst, hword] at h'
      cases h'
      rfl
    | string hfirst hbody =>
      simp only [skipWithin, hfirst, skipStringBody_of_stringBody hbody] at h'
      cases h'
      rfl
    | @array depth cs cs₁ cs₂ rest vs hfirst hitems hclose =>
      have hparts : Agree (fun _ _ => True) (value depth) (skipWithin (depth' - 1)) :=
        fun _ _ _ _ _ hv hu => ⟨trivial, ih depth (Nat.lt_succ_self depth) _ hv hu⟩
      cases depth' with
      | zero =>
        simp only [skipWithin, hfirst] at h'
        cases h'
      | succ depth' =>
        simp only [skipWithin, hfirst] at h'
        obtain ⟨⟨us, ds₂⟩, hitems', h'⟩ := exists_of_bind_eq_ok h'
        obtain ⟨ds₃, hclose', h'⟩ := exists_of_bind_eq_ok h'
        obtain ⟨-, rfl⟩ := hparts.items _ _ _ hitems hitems'
        cases hclose.symm.trans hclose'
        cases h'
        rfl
    | @object depth cs cs₁ cs₂ rest ms hfirst hmembers hclose =>
      have hparts : Agree (fun _ _ => True) (value depth) (skipWithin (depth' - 1)) :=
        fun _ _ _ _ _ hv hu => ⟨trivial, ih depth (Nat.lt_succ_self depth) _ hv hu⟩
      cases depth' with
      | zero =>
        simp only [skipWithin, hfirst] at h'
        cases h'
      | succ depth' =>
        simp only [skipWithin, hfirst] at h'
        obtain ⟨⟨us, ds₂⟩, hmembers', h'⟩ := exists_of_bind_eq_ok h'
        obtain ⟨ds₃, hclose', h'⟩ := exists_of_bind_eq_ok h'
        obtain ⟨-, rfl⟩ := agree_key_skipKey.members hparts _ _ _ hmembers hmembers'
        cases hclose.symm.trans hclose'
        cases h'
        rfl
    | number hother hnumeral =>
      obtain ⟨l, hl, -⟩ := literal_of_numeral hnumeral
      rw [skipWithin_of_other hother, hl] at h'
      cases h'
      rfl

/-- Passing over a value, however deeply it is nested, ends where reading it ends. -/
lemma agree_value_skip (depth : Nat) : Agree (fun _ _ => True) (value depth) skip :=
  fun cs _ _ _ _ h h' => agree_value_skipWithin depth cs.length h h'

/-! ### Typed values -/

/-- A string that is read is the value that stands there. -/
lemma agree_string_value (depth : Nat) :
    Agree (fun s v => v = .string s) (string depth) (value depth) := by
  intro cs s v rest rest' h h'
  unfold string stringWith at h
  split at h
  next hfirst =>
    obtain ⟨⟨body, cs₁⟩, hbody, h⟩ := exists_of_bind_eq_ok h
    cases h
    simp only [value, hfirst, hbody] at h'
    cases h'
    exact ⟨rfl, rfl⟩
  next => exact absurd h (wrongType_ne_ok _ _ _)

/-- A sequence that is read is the array that stands there. -/
lemma Agree.list {item : Decoder α} {p : α → Json → Prop}
    (h : ∀ depth, Agree p (item depth) (value depth)) (depth : Nat) :
    Agree (fun as v => ∃ vs, v = .array vs ∧ List.Forall₂ p as vs) (list item depth)
      (value depth) := by
  intro cs as v rest rest' hf hg
  unfold Decoder.list at hf
  split at hf
  next hfirst =>
    cases depth with
    | zero => cases hf
    | succ depth =>
      obtain ⟨⟨as, cs₁⟩, hitems, hf⟩ := exists_of_bind_eq_ok hf
      obtain ⟨cs₂, hclose, hf⟩ := exists_of_bind_eq_ok hf
      cases hf
      simp only [value, hfirst] at hg
      obtain ⟨⟨vs, ds₁⟩, hitems', hg⟩ := exists_of_bind_eq_ok hg
      obtain ⟨ds₂, hclose', hg⟩ := exists_of_bind_eq_ok hg
      cases hg
      obtain ⟨hparts, rfl⟩ := (h depth).items _ _ _ hitems hitems'
      cases hclose.symm.trans hclose'
      exact ⟨⟨vs, rfl, hparts⟩, rfl⟩
  next => exact absurd hf (wrongType_ne_ok _ _ _)

/-- A map of values that is read is the object that stands there. -/
lemma agree_map_value (depth : Nat) :
    Agree (fun ms v => v = .object ms) (map value depth) (value depth) := by
  intro cs ms v rest rest' h h'
  unfold map at h
  split at h
  next hfirst =>
    cases depth with
    | zero => cases h
    | succ depth =>
      obtain ⟨⟨ms, cs₁⟩, hmembers, h⟩ := exists_of_bind_eq_ok h
      obtain ⟨cs₂, hclose, h⟩ := exists_of_bind_eq_ok h
      cases h
      simp only [value, hfirst] at h'
      obtain ⟨⟨ms', ds₁⟩, hmembers', h'⟩ := exists_of_bind_eq_ok h'
      obtain ⟨ds₂, hclose', h'⟩ := exists_of_bind_eq_ok h'
      cases h'
      cases hmembers.symm.trans hmembers'
      cases hclose.symm.trans hclose'
      exact ⟨rfl, rfl⟩
  next => exact absurd h (wrongType_ne_ok _ _ _)

/-! ### Records -/

section Record

variable {fields : List (FieldDecoder σ)} {Q : List (String × Json) → σ → Prop}
  {R : List (FieldDecoder σ) → List Json → σ → Prop}

/-- What the members read so far say of a record goes on to hold when a member is read that is a
field, and when one is passed over that is none. -/
structure FollowsMembers (fields : List (FieldDecoder σ)) (Q : List (String × Json) → σ → Prop) :
    Prop where
  field : ∀ f ∈ fields, ∀ s depth, Agree (fun t v => ∀ ms, Q ms s → Q (ms ++ [(f.name, v)]) t)
    (f.read s depth) (value depth)
  other : ∀ k, fields.find? (·.name = k) = none → ∀ v ms s, Q ms s → Q (ms ++ [(k, v)]) s

/-- A record is followed along the members of an object. -/
lemma FollowsMembers.recordMembers (h : FollowsMembers fields Q) {depth n : Nat} {first : Bool}
    {seen : List String} {s t : σ} {cs rest rest' : List Char} {before ms : List (String × Json)}
    (hread : recordMembers fields depth n first seen s cs = .ok (t, rest))
    (hfinds : FindsMembers key (value depth) first cs ms rest') (hbefore : Q before s) :
    Q (before ++ ms) t ∧ rest = rest' := by
  induction n generalizing first seen s cs before ms with
  | zero => cases hread
  | succ n ih =>
    rw [Decoder.recordMembers] at hread
    cases hfinds with
    | close hnext =>
      rw [hnext] at hread
      dsimp only [bind, Except.bind] at hread
      split at hread
      · cases hread
      · cases hread
        rw [List.append_nil]
        exact ⟨hbefore, rfl⟩
    | @member _ _ cs₁ cs₂ cs₃ cs₄ _ k v ms hnext hk hcolon hv hlater =>
      rw [hnext] at hread
      obtain ⟨⟨k', ds₂⟩, hk', hread⟩ := exists_of_bind_eq_ok (x := key cs₁) hread
      cases hk.symm.trans hk'
      have happend : before ++ (k, v) :: ms = before ++ [(k, v)] ++ ms :=
        List.append_cons before (k, v) ms
      rw [happend]
      dsimp only at hread
      split at hread
      next hfind =>
        obtain ⟨ds₃, hcolon', hread⟩ := exists_of_bind_eq_ok hread
        cases hcolon.symm.trans hcolon'
        obtain ⟨⟨u, ds₄⟩, hskip, hread⟩ := exists_of_bind_eq_ok hread
        obtain ⟨-, rfl⟩ := agree_value_skip depth hv hskip
        exact ih hread hlater (h.other k hfind v before s hbefore)
      next f hfind =>
        split at hread
        · cases hread
        · obtain ⟨ds₃, hcolon', hread⟩ := exists_of_bind_eq_ok hread
          cases hcolon.symm.trans hcolon'
          obtain ⟨⟨u, ds₄⟩, hfield, hread⟩ := exists_of_bind_eq_ok hread
          have hname : f.name = k := by simpa using List.find?_some hfind
          obtain ⟨hstep, rfl⟩ := h.field f (List.mem_of_find?_eq_some hfind) s depth hfield hv
          rw [hname] at hstep
          exact ih hread hlater (hstep before hbefore)

/-- What the items read so far say of a record and of the fields that are left goes on to hold when
the next item is read. -/
def FollowsItems (R : List (FieldDecoder σ) → List Json → σ → Prop) : Prop :=
  ∀ f fs vs s depth, R (f :: fs) vs s →
    Agree (fun t v => R fs (vs ++ [v]) t) (f.read s depth) (value depth)

/-- Where a sequence can be closed, no item follows. -/
lemma nextItem_of_closeItems {cs rest : List Char} (h : closeItems cs = .ok rest) (first : Bool) :
    nextItem first cs = .ok none := by
  unfold closeItems at h
  cases hspace : Scan.skipSpace cs with
  | nil =>
    rw [hspace] at h
    cases h
  | cons c ds =>
    rw [hspace, Scan.expect] at h
    split at h
    next hc =>
      rw [nextItem, hspace, ← hc]
      rfl
    next => cases h

/-- Where no item follows, the fields that are left change nothing. -/
lemma recordItems_of_close {shape : String} {size depth count : Nat} {fs : List (FieldDecoder σ)}
    {s t : σ} {cs rest : List Char} (hnext : nextItem (count = 0) cs = .ok none)
    (hread : recordItems shape size depth fs count s cs = .ok (t, rest)) : s = t ∧ cs = rest := by
  induction fs with
  | nil =>
    cases hread
    exact ⟨rfl, rfl⟩
  | cons f fs ih =>
    rw [Decoder.recordItems, hnext] at hread
    dsimp only [bind, Except.bind] at hread
    split at hread
    · exact ih hread
    · cases hread

/-- A record is followed along the items of an array.  When its fields are used up, no item may be
left. -/
lemma FollowsItems.recordItems (h : FollowsItems R) {shape : String} {size depth count : Nat}
    {fs : List (FieldDecoder σ)} {s t : σ} {cs rest rest' rest'' : List Char}
    {before vs : List Json} (hread : recordItems shape size depth fs count s cs = .ok (t, rest))
    (hclose : closeItems rest = .ok rest'')
    (hfinds : FindsItems (value depth) (count = 0) cs vs rest') (hbefore : R fs before s) :
    (∃ fs', R fs' (before ++ vs) t) ∧ rest = rest' := by
  induction fs generalizing count s cs before vs with
  | nil =>
    cases hread
    have hnone := nextItem_of_closeItems hclose (count = 0)
    cases hfinds with
    | close =>
      rw [List.append_nil]
      exact ⟨⟨[], hbefore⟩, rfl⟩
    | item hnext => cases hnone.symm.trans hnext
  | cons f fs ih =>
    cases hfinds with
    | close hnext =>
      obtain ⟨rfl, rfl⟩ := recordItems_of_close hnext hread
      rw [List.append_nil]
      exact ⟨⟨f :: fs, hbefore⟩, rfl⟩
    | item hnext hv hlater =>
      rw [Decoder.recordItems, hnext] at hread
      obtain ⟨⟨u, cs₃⟩, hfield, hread⟩ := exists_of_bind_eq_ok (x := f.read s depth _) hread
      obtain ⟨hstep, rfl⟩ := h f fs before s depth hbefore hfield hv
      rw [List.append_cons]
      exact ih hread hlater hstep

/-- A record that is read follows the object or the array that stands there. -/
lemma agree_record_value (hmembers : FollowsMembers fields Q) (hitems : FollowsItems R)
    {shape : String} {start : σ} (hstart : Q [] start) (hstart' : R fields [] start)
    (depth : Nat) :
    Agree (fun s v => (∃ ms, v = Json.ofMembers ms ∧ Q ms s) ∨ ∃ vs fs, v = .array vs ∧ R fs vs s)
      (record shape fields start depth) (value depth) := by
  intro cs s v rest rest' h h'
  unfold record at h
  split at h
  next hfirst =>
    cases depth with
    | zero => cases h
    | succ depth =>
      obtain ⟨⟨t, cs₁⟩, hread, h⟩ := exists_of_bind_eq_ok h
      obtain ⟨cs₂, hclose, h⟩ := exists_of_bind_eq_ok h
      cases h
      simp only [value, hfirst] at h'
      obtain ⟨⟨ms, ds₁⟩, hms, h'⟩ := exists_of_bind_eq_ok h'
      obtain ⟨ds₂, hclose', h'⟩ := exists_of_bind_eq_ok h'
      cases h'
      obtain ⟨hQ, rfl⟩ := hmembers.recordMembers hread (findsMembers_of_members hms) hstart
      cases hclose.symm.trans hclose'
      exact ⟨.inl ⟨ms, rfl, hQ⟩, rfl⟩
  next hfirst =>
    cases depth with
    | zero => cases h
    | succ depth =>
      obtain ⟨⟨t, cs₁⟩, hread, h⟩ := exists_of_bind_eq_ok h
      obtain ⟨cs₂, hclose, h⟩ := exists_of_bind_eq_ok h
      cases h
      simp only [value, hfirst] at h'
      obtain ⟨⟨vs, ds₁⟩, hvs, h'⟩ := exists_of_bind_eq_ok h'
      obtain ⟨ds₂, hclose', h'⟩ := exists_of_bind_eq_ok h'
      cases h'
      obtain ⟨⟨fs, hR⟩, rfl⟩ :=
        hitems.recordItems hread hclose (findsItems_of_items hvs) hstart'
      cases hclose.symm.trans hclose'
      exact ⟨.inr ⟨vs, fs, rfl, hR⟩, rfl⟩
  next => exact absurd h (wrongType_ne_ok _ _ _)

end Record

/-! ### Whole texts -/

/-- What two readers that agree read from a whole text is related. -/
lemma Agree.readAll {d : Decoder α} {d' : Decoder β} (h : Agree p (d maxDepth) (d' maxDepth))
    {text : String} {a : α} {b : β} (ha : readAll d text = .ok a) (hb : readAll d' text = .ok b) :
    p a b := by
  obtain ⟨rest, ha⟩ := exists_of_readAll_eq_ok ha
  obtain ⟨rest', hb⟩ := exists_of_readAll_eq_ok hb
  exact (h ha hb).1

end Tidemark.Json.Decoder
