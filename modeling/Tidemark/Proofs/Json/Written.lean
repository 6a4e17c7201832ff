import Mathlib.Data.List.Forall2
import Tidemark.Engine.Row
import Tidemark.Proofs.Json.Agreement

/-!
# Values as they are written

A written value is a value in which every number still stands as it is written (`Written`); a reader
of values turns these numbers into 64-bit integers and doubles (`Written.ReadAs`).  Whatever is read
as a value can be read as a written value too (`follows_value`), and the same holds for the decoders
that are put together from readers of parts (`Follows.list`, `Follows.map`, `Follows.record`).
-/

namespace Tidemark.Json

/-- A value in which numbers stand as they are written. -/
inductive Written where
  | null
  | bool (b : Bool)
  | number (l : Scan.Literal)
  | string (s : String)
  | array (items : List Written)
  | object (members : List (String × Written))

namespace Written

/-- What a written value is read as. -/
inductive ReadAs : Written → Json → Prop
  | null : ReadAs .null .null
  | bool (b : Bool) : ReadAs (.bool b) (.bool b)
  | number {l : Scan.Literal} {n : Numeral} (h : l.numeral? = some n) :
      ReadAs (.number l) (.number n)
  | string (s : String) : ReadAs (.string s) (.string s)
  | array {ws : List Written} {vs : List Json} (h : List.Forall₂ ReadAs ws vs) :
      ReadAs (.array ws) (.array vs)
  | object {ws : List (String × Written)} {vs : List (String × Json)}
      (hkeys : ws.map Prod.fst = vs.map Prod.fst)
      (h : List.Forall₂ ReadAs (ws.map Prod.snd) (vs.map Prod.snd)) :
      ReadAs (.object ws) (.object vs)

open Decoder

/-- Reads a written value of any kind. -/
def reader : Decoder Written
  | depth, cs =>
    match Scan.skipSpace cs with
    | 'n' :: cs => (Scan.expect ['u', 'l', 'l'] cs).map fun cs => (.null, cs)
    | 't' :: cs => (Scan.expect ['r', 'u', 'e'] cs).map fun cs => (.bool true, cs)
    | 'f' :: cs => (Scan.expect ['a', 'l', 's', 'e'] cs).map fun cs => (.bool false, cs)
    | '"' :: cs => (Scan.stringBody cs).map fun r => (.string (String.ofList r.1), r.2)
    | '[' :: cs =>
      match depth with
      | 0 => .error .malformed
      | depth + 1 => do
        let (ws, cs) ← items (reader depth) (cs.length + 1) true cs
        return (.array ws, ← closeItems cs)
    | '\x7b' :: cs =>
      match depth with
      | 0 => .error .malformed
      | depth + 1 => do
        let (ms, cs) ← members key (reader depth) (cs.length + 1) true cs
        return (.object (Members.ofPairs ms), ← closeMembers cs)
    | cs => (Scan.literal cs).map fun r => (.number r.1, r.2)

end Written

namespace Decoder

variable {α β κ σ τ : Type}

/-- Whatever the first reader reads, the second one reads there too; it leaves the same text. -/
def Follows (p : α → β → Prop) (f : List Char → Except Fault (α × List Char))
    (g : List Char → Except Fault (β × List Char)) : Prop :=
  ∀ ⦃cs a rest⦄, f cs = .ok (a, rest) → ∃ b, g cs = .ok (b, rest) ∧ p a b

/-! ### Containers -/

section Containers

variable {p : α → β → Prop} {f : List Char → Except Fault (α × List Char)}
  {g : List Char → Except Fault (β × List Char)}

/-- What follows on items follows on sequences of items. -/
lemma Follows.items (h : Follows p f g) (n : Nat) (first : Bool) :
    Follows (List.Forall₂ p) (items f n first) (items g n first) := by
  intro cs vs rest hf
  induction n generalizing first cs vs with
  | zero => cases hf
  | succ n ih =>
    rw [Decoder.items] at hf ⊢
    obtain ⟨next, hnext, hf⟩ := exists_of_bind_eq_ok hf
    rw [hnext]
    cases next with
    | none =>
      cases hf
      exact ⟨[], rfl, .nil⟩
    | some cs₁ =>
      obtain ⟨⟨v, cs₂⟩, hv, hf⟩ := exists_of_bind_eq_ok hf
      obtain ⟨⟨vs, cs₃⟩, hvs, hf⟩ := exists_of_bind_eq_ok hf
      cases hf
      obtain ⟨w, hw, hp⟩ := h hv
      obtain ⟨ws, hws, hps⟩ := ih false hvs
      refine ⟨w :: ws, ?_, .cons hp hps⟩
      simp [hw, hws, bind, Except.bind, pure, Except.pure]

/-- What follows on values follows on sequences of members. -/
lemma Follows.members {kf : List Char → Except Fault (κ × List Char)} (h : Follows p f g) (n : Nat)
    (first : Bool) : Follows (List.Forall₂ fun m m' => m.1 = m'.1 ∧ p m.2 m'.2)
      (members kf f n first) (members kf g n first) := by
  intro cs ms rest hf
  induction n generalizing first cs ms with
  | zero => cases hf
  | succ n ih =>
    rw [Decoder.members] at hf ⊢
    obtain ⟨next, hnext, hf⟩ := exists_of_bind_eq_ok hf
    rw [hnext]
    cases next with
    | none =>
      cases hf
      exact ⟨[], rfl, .nil⟩
    | some cs₁ =>
      obtain ⟨⟨k, cs₂⟩, hk, hf⟩ := exists_of_bind_eq_ok hf
      obtain ⟨cs₃, hcolon, hf⟩ := exists_of_bind_eq_ok hf
      obtain ⟨⟨v, cs₄⟩, hv, hf⟩ := exists_of_bind_eq_ok hf
      obtain ⟨⟨ms, cs₅⟩, hms, hf⟩ := exists_of_bind_eq_ok hf
      cases hf
      obtain ⟨w, hw, hp⟩ := h hv
      obtain ⟨ms', hms', hps⟩ := ih false hms
      refine ⟨(k, w) :: ms', ?_, .cons ⟨rfl, hp⟩ hps⟩
      simp [hk, hcolon, hw, hms', bind, Except.bind, pure, Except.pure]

end Containers

/-- Where a member is found, a related one is found. -/
lemma exists_find?_of_members {p : α → β → Prop} {ms : List (String × α)}
    {ms' : List (String × β)} (h : List.Forall₂ (fun m m' => m.1 = m'.1 ∧ p m.2 m'.2) ms ms')
    {k : String} {w : β} (hw : Members.find? k ms' = some w) :
    ∃ v, Members.find? k ms = some v ∧ p v w := by
  induction h with
  | nil => cases hw
  | @cons m m' ms ms' hm _ ih =>
    obtain ⟨l, v⟩ := m
    obtain ⟨l', w'⟩ := m'
    obtain ⟨rfl, hp⟩ : l = l' ∧ p v w' := hm
    unfold Members.find? at hw ⊢
    by_cases hk : k = l
    · rw [if_pos hk] at hw ⊢
      cases hw
      exact ⟨v, rfl, hp⟩
    · rw [if_neg hk] at hw ⊢
      exact ih hw

/-- Related values under one key are put at the same place. -/
lemma forall₂_insert {p : α → β → Prop} {k : String} {v : α} {w : β} (hp : p v w)
    {ms : List (String × α)} {ms' : List (String × β)}
    (h : List.Forall₂ (fun m m' => m.1 = m'.1 ∧ p m.2 m'.2) ms ms') :
    List.Forall₂ (fun m m' => m.1 = m'.1 ∧ p m.2 m'.2) (Members.insert k v ms)
      (Members.insert k w ms') := by
  induction h with
  | nil => exact .cons ⟨rfl, hp⟩ .nil
  | @cons m m' ms ms' hm hms ih =>
    obtain ⟨l, u⟩ := m
    obtain ⟨l', u'⟩ := m'
    obtain ⟨rfl, hu⟩ : l = l' ∧ p u u' := hm
    unfold Members.insert
    split
    · exact .cons ⟨rfl, hp⟩ (.cons ⟨rfl, hu⟩ hms)
    · split
      · exact .cons ⟨rfl, hp⟩ hms
      · exact .cons ⟨rfl, hu⟩ ih

/-- Related members are related in key order, too. -/
lemma forall₂_ofPairs {p : α → β → Prop} {ms : List (String × α)} {ms' : List (String × β)}
    (h : List.Forall₂ (fun m m' => m.1 = m'.1 ∧ p m.2 m'.2) ms ms') :
    List.Forall₂ (fun m m' => m.1 = m'.1 ∧ p m.2 m'.2) (Members.ofPairs ms)
      (Members.ofPairs ms') := by
  have hfold : ∀ {ns ns'}, List.Forall₂ (fun m m' => m.1 = m'.1 ∧ p m.2 m'.2) ns ns' →
      List.Forall₂ (fun m m' => m.1 = m'.1 ∧ p m.2 m'.2)
        (ms.foldl (fun ns m => Members.insert m.1 m.2 ns) ns)
        (ms'.foldl (fun ns m => Members.insert m.1 m.2 ns) ns') := by
    induction h with
    | nil => exact fun hns => hns
    | @cons m m' ms ms' hm _ ih =>
      intro ns ns' hns
      rw [List.foldl_cons, List.foldl_cons, hm.1]
      exact ih (forall₂_insert hm.2 hns)
  exact hfold .nil

end Decoder

/-! ### Values -/

namespace Written

open Decoder

/-- What begins as a number is read as a literal. -/
lemma reader_of_other {cs : List Char}
    (h : ∀ c ∈ (Scan.skipSpace cs).head?, beginsOther c = false) (depth : Nat) :
    reader depth cs = (Scan.literal (Scan.skipSpace cs)).map fun r => (.number r.1, r.2) := by
  rw [reader]
  split
  · next hfirst => cases beginsOther_of_eq_cons h hfirst
  · next hfirst => cases beginsOther_of_eq_cons h hfirst
  · next hfirst => cases beginsOther_of_eq_cons h hfirst
  · next hfirst => cases beginsOther_of_eq_cons h hfirst
  · next hfirst => cases beginsOther_of_eq_cons h hfirst
  · next hfirst => cases beginsOther_of_eq_cons h hfirst
  · rfl

/-- An object of written values is read as an object of what these are read as. -/
lemma ReadAs.of_members {ws : List (String × Written)} {vs : List (String × Json)}
    (h : List.Forall₂ (fun m m' => m.1 = m'.1 ∧ ReadAs m'.2 m.2) vs ws) :
    ReadAs (.object ws) (.object vs) := by
  refine .object ?_ ?_
  · induction h with
    | nil => rfl
    | cons hm _ ih => exact congrArg₂ List.cons hm.1.symm ih
  · induction h with
    | nil => exact .nil
    | cons hm _ ih => exact .cons hm.2 ih

/-- An object of written values is read only as an object of what these are read as. -/
lemma ReadAs.members {ws : List (String × Written)} {v : Json} (h : ReadAs (.object ws) v) :
    ∃ vs, v = .object vs ∧ List.Forall₂ (fun m m' => m.1 = m'.1 ∧ ReadAs m'.2 m.2) vs ws := by
  cases h with
  | @object _ vs hkeys hvalues =>
    refine ⟨vs, rfl, ?_⟩
    induction vs generalizing ws with
    | nil =>
      obtain rfl := List.map_eq_nil_iff.1 hkeys
      exact .nil
    | cons m vs ih =>
      cases ws with
      | nil => cases hkeys
      | cons m' ws =>
        obtain ⟨hkey, hkeys⟩ := List.cons.inj hkeys
        obtain ⟨hvalue, hvalues⟩ := List.forall₂_cons.1 hvalues
        exact .cons ⟨hkey.symm, hvalue⟩ (ih hkeys hvalues)

/-- Whatever is read as a value can be read as a written value that is read as it. -/
lemma follows_value (depth : Nat) :
    Follows (fun v w => ReadAs w v) (value depth) (reader depth) := by
  induction depth using Nat.strongRecOn with
  | ind depth ih =>
    intro cs v rest h
    cases findsValue_of_value h with
    | null hfirst hword =>
      refine ⟨.null, ?_, .null⟩
      simp only [reader, hfirst, hword]
      rfl
    | true hfirst hword =>
      refine ⟨.bool true, ?_, .bool true⟩
      simp only [reader, hfirst, hword]
      rfl
    | false hfirst hword =>
      refine ⟨.bool false, ?_, .bool false⟩
      simp only [reader, hfirst, hword]
      rfl
    | string hfirst hbody =>
      refine ⟨.string _, ?_, .string _⟩
      simp only [reader, hfirst, hbody]
      rfl
    | @array depth cs cs₁ cs₂ rest vs hfirst hitems hclose =>
      obtain ⟨ws, hws, hparts⟩ := (ih depth (Nat.lt_succ_self depth)).items _ _ hitems
      refine ⟨.array ws, ?_, .array (List.Forall₂.flip hparts)⟩
      simp [reader, hfirst, hws, hclose, bind, Except.bind, pure, Except.pure]
    | @object depth cs cs₁ cs₂ rest ms hfirst hmembers hclose =>
      obtain ⟨ws, hws, hparts⟩ := (ih depth (Nat.lt_succ_self depth)).members _ _ hmembers
      have hordered := forall₂_ofPairs (p := fun v w => ReadAs w v) hparts
      refine ⟨.object (Members.ofPairs ws), ?_, .of_members hordered⟩
      simp [reader, hfirst, hws, hclose, bind, Except.bind, pure, Except.pure]
    | number hother hnumeral =>
      obtain ⟨l, hl, hn⟩ := literal_of_numeral hnumeral
      refine ⟨.number l, ?_, .number hn⟩
      rw [reader_of_other hother, hl]
      rfl

end Written

namespace Decoder

variable {α β σ τ : Type}

/-! ### Typed values and records -/

/-- What follows on items follows on lists of them. -/
lemma Follows.list {item : Decoder α} {item' : Decoder β} {p : α → β → Prop}
    (h : ∀ depth, Follows p (item depth) (item' depth)) (depth : Nat) :
    Follows (List.Forall₂ p) (Decoder.list item depth) (Decoder.list item' depth) := by
  intro cs vs rest hf
  unfold Decoder.list at hf ⊢
  split at hf
  next hfirst =>
    cases depth with
    | zero => cases hf
    | succ depth =>
      obtain ⟨⟨vs, cs₁⟩, hitems, hf⟩ := exists_of_bind_eq_ok hf
      obtain ⟨cs₂, hclose, hf⟩ := exists_of_bind_eq_ok hf
      cases hf
      obtain ⟨ws, hws, hparts⟩ := (h depth).items _ _ hitems
      refine ⟨ws, ?_, hparts⟩
      simp [hws, hclose, bind, Except.bind, pure, Except.pure]
  next => exact absurd hf (wrongType_ne_ok _ _ _)

/-- What follows on values follows on maps of them. -/
lemma Follows.map {item : Decoder α} {item' : Decoder β} {p : α → β → Prop}
    (h : ∀ depth, Follows p (item depth) (item' depth)) (depth : Nat) :
    Follows (List.Forall₂ fun m m' => m.1 = m'.1 ∧ p m.2 m'.2) (Decoder.map item depth)
      (Decoder.map item' depth) := by
  intro cs ms rest hf
  unfold Decoder.map at hf ⊢
  split at hf
  next hfirst =>
    cases depth with
    | zero => cases hf
    | succ depth =>
      obtain ⟨⟨ms, cs₁⟩, hmembers, hf⟩ := exists_of_bind_eq_ok hf
      obtain ⟨cs₂, hclose, hf⟩ := exists_of_bind_eq_ok hf
      cases hf
      obtain ⟨ms', hms', hparts⟩ := (h depth).members _ _ hmembers
      refine ⟨Members.ofPairs ms', ?_, forall₂_ofPairs hparts⟩
      simp [hms', hclose, bind, Except.bind, pure, Except.pure]
  next => exact absurd hf (wrongType_ne_ok _ _ _)

/-- A field of one record follows a field of another one of the same name. -/
structure FollowsField (q : σ → τ → Prop) (f : FieldDecoder σ) (g : FieldDecoder τ) : Prop where
  name : f.name = g.name
  optional : f.optional = g.optional
  read (s : σ) (t : τ) (hst : q s t) (depth : Nat) : Follows q (f.read s depth) (g.read t depth)

section Record

variable {q : σ → τ → Prop} {fs : List (FieldDecoder σ)} {gs : List (FieldDecoder τ)}

/-- Fields that follow each other are found alike. -/
lemma rel_find? (h : List.Forall₂ (FollowsField q) fs gs) {p : FieldDecoder σ → Bool}
    {p' : FieldDecoder τ → Bool} (hp : ∀ f g, FollowsField q f g → p f = p' g) :
    Option.Rel (FollowsField q) (fs.find? p) (gs.find? p') := by
  induction h with
  | nil => exact .none
  | @cons f g fs gs hfg _ ih =>
    rw [List.find?_cons, List.find?_cons, hp f g hfg]
    split
    · exact .some hfg
    · exact ih

/-- What follows on fields follows on the members of a record. -/
lemma Follows.recordMembers (h : List.Forall₂ (FollowsField q) fs gs) (depth n : Nat)
    (first : Bool) (seen : List String) {s : σ} {t : τ} (hst : q s t) :
    Follows q (recordMembers fs depth n first seen s) (recordMembers gs depth n first seen t) := by
  intro cs s' rest hf
  induction n generalizing first seen s t cs with
  | zero => cases hf
  | succ n ih =>
    rw [Decoder.recordMembers] at hf ⊢
    obtain ⟨next, hnext, hf⟩ := exists_of_bind_eq_ok hf
    rw [hnext]
    cases next with
    | none =>
      have hmissing : Option.Rel (FollowsField q) (missing? fs seen) (missing? gs seen) := by
        refine rel_find? h fun f g hfg => ?_
        rw [hfg.optional, hfg.name]
      dsimp only [bind, Except.bind] at hf ⊢
      generalize missing? fs seen = f at hf hmissing
      generalize missing? gs seen = g at hmissing ⊢
      cases hmissing with
      | some => cases hf
      | none =>
        cases hf
        exact ⟨t, rfl, hst⟩
    | some cs₁ =>
      obtain ⟨⟨k, cs₂⟩, hk, hf⟩ := exists_of_bind_eq_ok hf
      have hfind : Option.Rel (FollowsField q) (fs.find? (·.name = k)) (gs.find? (·.name = k)) := by
        refine rel_find? h fun f g hfg => ?_
        rw [hfg.name]
      simp only [hk, bind, Except.bind]
      dsimp only at hf
      generalize fs.find? (·.name = k) = f at hf hfind
      generalize gs.find? (·.name = k) = g at hfind ⊢
      cases hfind with
      | none =>
        obtain ⟨cs₃, hcolon, hf⟩ := exists_of_bind_eq_ok hf
        obtain ⟨⟨_, cs₄⟩, hskip, hf⟩ := exists_of_bind_eq_ok hf
        obtain ⟨t', ht', hst'⟩ := ih false seen hst hf
        refine ⟨t', ?_, hst'⟩
        simp [hcolon, hskip, ht']
      | some hfg =>
        dsimp only at hf
        split at hf
        · cases hf
        next hseen =>
          obtain ⟨cs₃, hcolon, hf⟩ := exists_of_bind_eq_ok hf
          obtain ⟨⟨u, cs₄⟩, hu, hf⟩ := exists_of_bind_eq_ok hf
          obtain ⟨w, hw, huw⟩ := hfg.read s t hst depth hu
          obtain ⟨t', ht', hst'⟩ := ih false (k :: seen) huw hf
          refine ⟨t', ?_, hst'⟩
          have hnew : k ∉ seen := by simpa using hseen
          simp [hnew, hcolon, hw, ht']

/-- What follows on fields follows on the items of a record. -/
lemma Follows.recordItems (h : List.Forall₂ (FollowsField q) fs gs) (shape : String)
    (size depth count : Nat) {s : σ} {t : τ} (hst : q s t) :
    Follows q (recordItems shape size depth fs count s)
      (recordItems shape size depth gs count t) := by
  intro cs s' rest hf
  induction h generalizing count s t cs with
  | nil =>
    cases hf
    exact ⟨t, rfl, hst⟩
  | @cons f g fs gs hfg hfgs ih =>
    rw [Decoder.recordItems] at hf ⊢
    obtain ⟨next, hnext, hf⟩ := exists_of_bind_eq_ok hf
    rw [hnext]
    cases next with
    | none =>
      dsimp only at hf
      split at hf
      next hoptional =>
        obtain ⟨t', ht', hst'⟩ := ih count hst hf
        rw [hfg.optional] at hoptional
        refine ⟨t', ?_, hst'⟩
        simp [hoptional, ht', bind, Except.bind]
      next => cases hf
    | some cs₁ =>
      obtain ⟨⟨u, cs₂⟩, hu, hf⟩ := exists_of_bind_eq_ok hf
      obtain ⟨w, hw, huw⟩ := hfg.read s t hst depth hu
      obtain ⟨t', ht', hst'⟩ := ih (count + 1) huw hf
      refine ⟨t', ?_, hst'⟩
      simp [hw, ht', bind, Except.bind]

/-- What follows on fields follows on records. -/
lemma Follows.record (h : List.Forall₂ (FollowsField q) fs gs) (shape : String) {s : σ} {t : τ}
    (hst : q s t) (depth : Nat) :
    Follows q (Decoder.record shape fs s depth) (Decoder.record shape gs t depth) := by
  intro cs s' rest hf
  unfold Decoder.record at hf ⊢
  split at hf
  next hfirst =>
    cases depth with
    | zero => cases hf
    | succ depth =>
      obtain ⟨⟨u, cs₁⟩, hmembers, hf⟩ := exists_of_bind_eq_ok hf
      obtain ⟨cs₂, hclose, hf⟩ := exists_of_bind_eq_ok hf
      cases hf
      obtain ⟨w, hw, huw⟩ := Follows.recordMembers h depth _ true [] hst hmembers
      refine ⟨w, ?_, huw⟩
      simp [hw, hclose, bind, Except.bind, pure, Except.pure]
  next hfirst =>
    cases depth with
    | zero => cases hf
    | succ depth =>
      obtain ⟨⟨u, cs₁⟩, hitems, hf⟩ := exists_of_bind_eq_ok hf
      obtain ⟨cs₂, hclose, hf⟩ := exists_of_bind_eq_ok hf
      cases hf
      obtain ⟨w, hw, huw⟩ := Follows.recordItems h shape _ depth 0 hst hitems
      refine ⟨w, ?_, huw⟩
      rw [h.length_eq] at hw
      simp [hw, hclose, bind, Except.bind, pure, Except.pure]
  next => exact absurd hf (wrongType_ne_ok _ _ _)

end Record

/-- What follows on values follows on whole texts. -/
lemma Follows.readAll {d : Decoder α} {d' : Decoder β} {p : α → β → Prop}
    (h : Follows p (d maxDepth) (d' maxDepth)) {text : String} {a : α}
    (ha : readAll d text = .ok a) : ∃ b, Decoder.readAll d' text = .ok b ∧ p a b := by
  unfold Decoder.readAll at ha ⊢
  obtain ⟨⟨v, rest⟩, hread, ha⟩ := exists_of_bind_eq_ok ha
  obtain ⟨b, hb, hp⟩ := h hread
  dsimp only at ha
  split at ha
  next hrest =>
    cases ha
    refine ⟨b, ?_, hp⟩
    simp [hb, hrest, bind, Except.bind, pure, Except.pure]
  next => cases ha

end Decoder

end Tidemark.Json
