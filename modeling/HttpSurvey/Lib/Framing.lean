/-
Messages on a stream. A reader takes the octets received so far and gives the first message with the
octets after it, asks for more, or fails. `SelfDelimiting` says that it reads one kind of encoding: a
message followed by anything is read as itself, and a proper prefix of one asks for more. Readers are
put together from smaller ones (`list`, `map`, `body`), each with the law of its result, and
`SelfDelimiting` decides what the reader makes of any part of a stream of messages.
-/
import Mathlib.Tactic

namespace HttpSurvey.Lib

/-- What a reader makes of the octets received so far. -/
inductive Reading (α β : Type)
  | done (a : α) (rest : List β)
  | more
  | failed
  deriving DecidableEq, Repr

/-- `read` reads the encodings of the well-formed messages, one at a time. -/
structure SelfDelimiting {α β : Type} (wf : α → Prop) (encode : α → List β)
    (read : List β → Reading α β) : Prop where
  empty : read [] = .more
  done : ∀ {a} rest, wf a → read (encode a ++ rest) = .done a rest
  more : ∀ {a p q}, wf a → encode a = p ++ q → q ≠ [] → read p = .more
  shorter : ∀ {p a rest}, read p = .done a rest → rest.length < p.length

namespace SelfDelimiting

variable {α β γ : Type} {wf : α → Prop} {encode : α → List β} {read : List β → Reading α β}

theorem encode_ne_nil (h : SelfDelimiting wf encode read) {a : α} (ha : wf a) : encode a ≠ [] := by
  intro he
  have hd := h.done [] ha
  rw [he, List.append_nil, h.empty] at hd
  cases hd

theorem length_le_flatMap (h : SelfDelimiting wf encode read) {as : List α} (has : ∀ a ∈ as, wf a) :
    as.length ≤ (as.flatMap encode).length := by
  induction as with
  | nil => exact Nat.zero_le _
  | cons a as ih =>
    have hpos := List.length_pos_iff.2 (h.encode_ne_nil (has a (List.mem_cons_self ..)))
    have := ih fun b hb => has b (List.mem_cons_of_mem _ hb)
    simp only [List.flatMap_cons, List.length_append, List.length_cons]
    omega

/-! ## Parts of a stream -/

section Stream

variable {as : List α} {p q : List β}

/-- Either a whole message was received, or a proper prefix of one. -/
theorem split (hp : p ++ q = as.flatMap encode) :
    (∃ a as' rest, as = a :: as' ∧ p = encode a ++ rest ∧ rest ++ q = as'.flatMap encode) ∨
      (∃ a as' q', as = a :: as' ∧ encode a = p ++ q' ∧ q' ≠ [] ∧ q' ++ as'.flatMap encode = q) ∨
      (as = [] ∧ p = [] ∧ q = []) := by
  cases as with
  | nil => exact .inr (.inr ⟨rfl, List.append_eq_nil_iff.1 hp⟩)
  | cons a as =>
    rw [List.flatMap_cons] at hp
    -- the first message ends after or within what was received
    rcases List.append_eq_append_iff.1 hp with ⟨q', he, hq⟩ | ⟨rest, hpe, hrest⟩
    · by_cases hq' : q' = []
      · subst hq'
        exact .inl ⟨a, as, [], rfl, by simpa using he.symm, by simpa using hq⟩
      · exact .inr (.inl ⟨a, as, q', rfl, he, hq', hq.symm⟩)
    · exact .inl ⟨a, as, rest, rfl, hpe, hrest.symm⟩

/-- What is read from a part of a stream is the first message of the stream. -/
theorem read_done (h : SelfDelimiting wf encode read) (hwf : ∀ a ∈ as, wf a)
    (hp : p ++ q = as.flatMap encode) {a : α} {rest : List β} (hr : read p = .done a rest) :
    ∃ as', as = a :: as' ∧ rest ++ q = as'.flatMap encode := by
  rcases split hp with ⟨a', as', rest', rfl, rfl, hq⟩ | ⟨a', as', q', rfl, he, hq', -⟩ | ⟨-, rfl, -⟩
  · rw [h.done rest' (hwf a' (List.mem_cons_self ..))] at hr
    cases hr
    exact ⟨as', rfl, hq⟩
  · rw [h.more (hwf a' (List.mem_cons_self ..)) he hq'] at hr
    cases hr
  · rw [h.empty] at hr
    cases hr

/-- The reader does not ask for more at the end of a stream unless all of it has been read. -/
theorem read_more (h : SelfDelimiting wf encode read) (hwf : ∀ a ∈ as, wf a)
    (hp : p = as.flatMap encode) (hr : read p = .more) : as = [] := by
  rw [← List.append_nil p] at hp
  rcases split hp with ⟨a', as', rest', rfl, rfl, -⟩ | ⟨a', as', q', rfl, -, hq', hq⟩ | ⟨has, -, -⟩
  · rw [h.done rest' (hwf a' (List.mem_cons_self ..))] at hr
    cases hr
  · exact absurd (List.append_eq_nil_iff.1 hq).1 hq'
  · exact has

/-- The reader does not fail on a part of a stream. -/
theorem read_ne_failed (h : SelfDelimiting wf encode read) (hwf : ∀ a ∈ as, wf a)
    (hp : p ++ q = as.flatMap encode) : read p ≠ .failed := by
  intro hr
  rcases split hp with ⟨a', as', rest', rfl, rfl, -⟩ | ⟨a', as', q', rfl, he, hq', -⟩ | ⟨-, rfl, -⟩
  · rw [h.done rest' (hwf a' (List.mem_cons_self ..))] at hr
    cases hr
  · rw [h.more (hwf a' (List.mem_cons_self ..)) he hq'] at hr
    cases hr
  · rw [h.empty] at hr
    cases hr

end Stream

end SelfDelimiting

/-! ## Another type of message -/

/-- The reading of a message, checked and taken to another type. -/
def Reading.map {α β γ : Type} (f : α → Option γ) : Reading α β → Reading γ β
  | .done a rest =>
    match f a with
    | some c => .done c rest
    | none => .failed
  | .more => .more
  | .failed => .failed

theorem SelfDelimiting.map {α β γ : Type} {wf : α → Prop} {encode : α → List β} {read : List β → Reading α β}
    {wf' : γ → Prop} {g : γ → α} {f : α → Option γ} (h : SelfDelimiting wf encode read)
    (hg : ∀ c, wf' c → wf (g c)) (hf : ∀ c, wf' c → f (g c) = some c) :
    SelfDelimiting wf' (fun c => encode (g c)) fun p => (read p).map f where
  empty := by simp only [h.empty, Reading.map]
  done := by
    intro c rest hc
    simp only [h.done rest (hg c hc), Reading.map, hf c hc]
  more := by
    intro c p q hc he hq
    simp only [h.more (hg c hc) he hq, Reading.map]
  shorter := by
    intro p c rest hr
    cases hread : read p with
    | done a rest' =>
      simp only [hread, Reading.map] at hr
      split at hr
      · cases hr
        exact h.shorter hread
      · cases hr
    | more | failed => simp only [hread, Reading.map] at hr; cases hr

/-! ## A body after a head that gives its length -/

/-- The head and then as many octets as it says. -/
def readBody {α β : Type} (size : α → Nat) (read : List β → Reading α β) (p : List β) :
    Reading (α × List β) β :=
  match read p with
  | .done a rest => if rest.length < size a then .more else .done (a, rest.take (size a)) (rest.drop (size a))
  | .more => .more
  | .failed => .failed

theorem SelfDelimiting.body {α β : Type} {wf : α → Prop} {encode : α → List β} {read : List β → Reading α β}
    (h : SelfDelimiting wf encode read) (size : α → Nat) :
    SelfDelimiting (fun m : α × List β => wf m.1 ∧ m.2.length = size m.1) (fun m => encode m.1 ++ m.2)
      (readBody size read) where
  empty := by simp only [readBody, h.empty]
  done := by
    rintro ⟨a, b⟩ rest ⟨ha, hb⟩
    simp only [readBody, List.append_assoc, h.done _ ha, ← hb]
    rw [if_neg (by simp)]
    simp
  more := by
    rintro ⟨a, b⟩ p q ⟨ha, hb⟩ he hq
    simp only at ha hb he
    rcases List.append_eq_append_iff.1 he with ⟨p', rfl, hb'⟩ | ⟨q', ha', hq'⟩
    · -- the head was received, and a part of the body
      have hlen : p'.length < size a := by
        rw [← hb, hb', List.length_append]
        have := List.length_pos_iff.2 hq
        omega
      simp only [readBody, h.done p' ha, if_pos hlen]
    · by_cases hq0 : q' = []
      · -- exactly the head was received
        subst hq0
        rw [List.append_nil] at ha'
        have hlen : 0 < size a := by
          rw [← hb, ← List.nil_append b, ← hq']
          exact List.length_pos_iff.2 hq
        have hd := h.done [] ha
        rw [List.append_nil, ha'] at hd
        simp only [readBody, hd, List.length_nil, if_pos hlen]
      · simp only [readBody, h.more ha ha' hq0]
  shorter := by
    intro p m rest hr
    unfold readBody at hr
    split at hr
    · rename_i a rest' hread
      split at hr
      · cases hr
      · cases hr
        rw [List.length_drop]
        have := h.shorter hread
        omega
    · cases hr
    · cases hr

/-! ## Items up to a last one -/

/-- Items up to the first that `isLast` accepts, which is dropped; `fuel` bounds their number. -/
def readItems {α β : Type} (isLast : α → Bool) (read : List β → Reading α β) :
    Nat → List β → Reading (List α) β
  | 0, _ => .failed
  | fuel + 1, p =>
    match read p with
    | .done a rest =>
      if isLast a then .done [] rest
      else (readItems isLast read fuel rest).map fun as => some (a :: as)
    | .more => .more
    | .failed => .failed

/-- The items of a list; each takes at least one octet. -/
def readList {α β : Type} (isLast : α → Bool) (read : List β → Reading α β) (p : List β) :
    Reading (List α) β :=
  readItems isLast read (p.length + 1) p

section List

variable {α β : Type} {wf : α → Prop} {encode : α → List β} {read : List β → Reading α β}
  {isLast : α → Bool} {last : α}

theorem SelfDelimiting.readItems_done (h : SelfDelimiting wf encode read) (hlast : wf last)
    (hl : isLast last = true) : ∀ {as : List α} (fuel : Nat) (rest : List β),
    (∀ a ∈ as, wf a ∧ isLast a = false) → as.length < fuel →
      readItems isLast read fuel (as.flatMap encode ++ encode last ++ rest) = .done as rest
  | [], fuel + 1, rest, _, _ => by
    simp [readItems, h.done rest hlast, hl]
  | a :: as, fuel + 1, rest, has, hlen => by
    obtain ⟨ha, hal⟩ := has a (List.mem_cons_self ..)
    have ih := h.readItems_done hlast hl fuel rest (fun b hb => has b (List.mem_cons_of_mem _ hb))
      (by simpa using hlen)
    simp only [List.flatMap_cons, List.append_assoc] at ih ⊢
    simp [readItems, h.done _ ha, hal, ih, Reading.map]

theorem SelfDelimiting.readItems_more (h : SelfDelimiting wf encode read) (hlast : wf last) :
    ∀ {as : List α} (fuel : Nat) {p q : List β}, (∀ a ∈ as, wf a ∧ isLast a = false) → p.length < fuel →
      as.flatMap encode ++ encode last = p ++ q → q ≠ [] → readItems isLast read fuel p = .more
  | [], fuel + 1, p, q, _, _, he, hq => by
    simp [readItems, h.more hlast (by simpa using he) hq]
  | a :: as, fuel + 1, p, q, has, hlen, he, hq => by
    obtain ⟨ha, hal⟩ := has a (List.mem_cons_self ..)
    rw [List.flatMap_cons, List.append_assoc] at he
    rcases List.append_eq_append_iff.1 he with ⟨p', rfl, he'⟩ | ⟨q', ha', hq'⟩
    · -- the first item was received
      have hpos := List.length_pos_iff.2 (h.encode_ne_nil ha)
      rw [List.length_append] at hlen
      have ih := h.readItems_more hlast fuel (fun b hb => has b (List.mem_cons_of_mem _ hb))
        (by omega) he' hq
      simp [readItems, h.done p' ha, hal, ih, Reading.map]
    · by_cases hq0 : q' = []
      · -- exactly the first item was received
        subst hq0
        rw [List.append_nil] at ha'
        subst ha'
        have hpos := List.length_pos_iff.2 (h.encode_ne_nil ha)
        have ih := h.readItems_more hlast fuel (p := [])
          (fun b hb => has b (List.mem_cons_of_mem _ hb)) (by simp; omega) hq'.symm hq
        have hd := h.done [] ha
        rw [List.append_nil] at hd
        simp [readItems, hd, hal, ih, Reading.map]
      · simp [readItems, h.more ha ha' hq0]

theorem SelfDelimiting.readItems_shorter (h : SelfDelimiting wf encode read) :
    ∀ {fuel : Nat} {p : List β} {as : List α} {rest : List β},
      readItems isLast read fuel p = .done as rest → rest.length < p.length
  | fuel + 1, p, as, rest, hr => by
    unfold readItems at hr
    split at hr
    · rename_i a rest' hread
      have hlt := h.shorter hread
      split at hr
      · cases hr
        exact hlt
      · cases hitems : readItems isLast read fuel rest' with
        | done as' rest'' =>
          rw [hitems] at hr
          cases hr
          exact (h.readItems_shorter hitems).trans hlt
        | more | failed => rw [hitems] at hr; cases hr
    · cases hr
    · cases hr

theorem SelfDelimiting.list (h : SelfDelimiting wf encode read) (isLast : α → Bool) (hlast : wf last)
    (hl : isLast last = true) :
    SelfDelimiting (fun as => ∀ a ∈ as, wf a ∧ isLast a = false)
      (fun as => as.flatMap encode ++ encode last) (readList isLast read) where
  empty := by simp [readList, readItems, h.empty]
  done := by
    intro as rest has
    refine h.readItems_done hlast hl _ rest has ?_
    have hle := h.length_le_flatMap fun a ha => (has a ha).1
    simp only [List.length_append]
    omega
  more := by
    intro as p q has he hq
    exact h.readItems_more hlast _ has (Nat.lt_succ_self _) he hq
  shorter := fun hr => h.readItems_shorter hr

end List

end HttpSurvey.Lib
