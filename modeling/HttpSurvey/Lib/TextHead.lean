/-
Heads of text messages: lines that end in CR LF, a start line first, then fields `name: value`, then
an empty line. The reader of heads is put together from the reader of a line, and `readTextHead_reads`
is its law; decimal numbers print and read back.
-/
import HttpSurvey.Lib.Framing

namespace HttpSurvey.Lib

/-! ## Lines -/

def crlf : List Char := ['\r', '\n']

def encodeLine (l : List Char) : List Char := l ++ crlf

/-- A line up to its CR LF; a CR has to be followed by LF. -/
def readLine : List Char → Reading (List Char) Char
  | [] => .more
  | c :: cs =>
    if c = '\r' then
      match cs with
      | [] => .more
      | d :: rest => if d = '\n' then .done [] rest else .failed
    else (readLine cs).map fun l => some (c :: l)

theorem readLine_cons {c : Char} (hc : c ≠ '\r') (cs : List Char) :
    readLine (c :: cs) = (readLine cs).map fun l => some (c :: l) := by
  rw [readLine.eq_def]
  exact if_neg hc

/-- What a line was read from. -/
theorem readLine_eq : ∀ {p l rest : List Char}, readLine p = .done l rest → p = encodeLine l ++ rest
  | [], _, _, h => by cases h
  | c :: cs, l, rest, h => by
    by_cases hc : c = '\r'
    · subst hc
      cases cs with
      | nil => cases h
      | cons d ds =>
        simp only [readLine, if_true] at h
        split at h
        · rename_i hd
          cases h
          rw [hd]
          rfl
        · cases h
    · rw [readLine_cons hc] at h
      cases hcs : readLine cs with
      | done l' rest' =>
        rw [hcs] at h
        cases h
        rw [readLine_eq hcs]
        rfl
      | more | failed => rw [hcs] at h; cases h

theorem readLine_done : ∀ {l : List Char} (rest : List Char), '\r' ∉ l →
    readLine (encodeLine l ++ rest) = .done l rest
  | [], rest, _ => by simp [encodeLine, crlf, readLine]
  | c :: l, rest, h => by
    obtain ⟨hc, hl⟩ := not_or.1 (List.mem_cons.not.1 h)
    have ih := readLine_done rest hl
    unfold encodeLine at ih ⊢
    rw [List.cons_append, List.cons_append, readLine_cons (Ne.symm hc), ih]
    rfl

theorem readLine_more : ∀ {l p q : List Char}, '\r' ∉ l → encodeLine l = p ++ q → q ≠ [] →
    readLine p = .more
  | _, [], _, _, _, _ => rfl
  | [], c :: p, q, _, he, hq => by
    -- the CR was received
    obtain ⟨rfl, he'⟩ : '\r' = c ∧ ['\n'] = p ++ q := by simpa [encodeLine, crlf] using he
    cases p with
    | nil => simp [readLine]
    | cons d p =>
      exact absurd (List.append_eq_nil_iff.1 (List.cons.inj he').2.symm).2 hq
  | d :: l, c :: p, q, h, he, hq => by
    obtain ⟨hd, hl⟩ := not_or.1 (List.mem_cons.not.1 h)
    obtain ⟨rfl, he'⟩ : d = c ∧ encodeLine l = p ++ q := by simpa [encodeLine] using he
    rw [readLine_cons (Ne.symm hd), readLine_more hl he' hq]
    rfl

theorem readLine_reads : SelfDelimiting (fun l : List Char => '\r' ∉ l) encodeLine readLine where
  empty := rfl
  done := fun rest h => readLine_done rest h
  more := fun h he hq => readLine_more h he hq
  shorter := by
    intro p l rest h
    rw [readLine_eq h]
    simp only [encodeLine, crlf, List.length_append, List.length_cons, List.length_nil]
    omega

/-! ## Splitting a line -/

/-- What stands before and after the first `c`. -/
def splitFirst (c : Char) : List Char → Option (List Char × List Char)
  | [] => none
  | d :: ds => if d = c then some ([], ds) else (splitFirst c ds).map fun s => (d :: s.1, s.2)

theorem splitFirst_append {c : Char} : ∀ {a : List Char} (b : List Char), c ∉ a →
    splitFirst c (a ++ c :: b) = some (a, b)
  | [], b, _ => by simp [splitFirst]
  | d :: a, b, h => by
    obtain ⟨hd, ha⟩ := not_or.1 (List.mem_cons.not.1 h)
    simp [splitFirst, Ne.symm hd, splitFirst_append b ha]

/-! ## Decimal numbers -/

def readDecimal (cs : List Char) : Option Nat :=
  if cs ≠ [] ∧ cs.all Char.isDigit then some (Nat.ofDigitChars 10 cs 0) else none

theorem toList_toString (n : Nat) : (toString n).toList = Nat.toDigits 10 n := Nat.toList_repr

theorem isDigit_of_mem_toString {n : Nat} {c : Char} (h : c ∈ (toString n).toList) : c.isDigit = true := by
  rw [toList_toString] at h
  exact Nat.isDigit_of_mem_toDigits (by decide) (by decide) h

/-- A number that is printed is read back. -/
theorem readDecimal_toString (n : Nat) : readDecimal (toString n).toList = some n := by
  have hall : (toString n).toList.all Char.isDigit := List.all_eq_true.2 fun _ h => isDigit_of_mem_toString h
  have hne : (toString n).toList ≠ [] := by
    rw [toList_toString]
    exact Nat.toDigits_ne_nil
  rw [readDecimal, if_pos ⟨hne, hall⟩, toList_toString, Nat.ofDigitChars_ten_toDigits]

/-! ## Heads -/

/-- A start line and fields. -/
structure TextHead where
  start : List Char
  fields : List (String × String)
  deriving DecidableEq, Repr

namespace TextHead

/-- The lines of the head can be told apart, and the names of its fields from the values. -/
structure WF (h : TextHead) : Prop where
  start_ne : h.start ≠ []
  start : '\r' ∉ h.start
  names : ∀ f ∈ h.fields, ':' ∉ f.1.toList ∧ '\r' ∉ f.1.toList
  values : ∀ f ∈ h.fields, '\r' ∉ f.2.toList

def fieldLine (f : String × String) : List Char := f.1.toList ++ ':' :: ' ' :: f.2.toList

def readField (l : List Char) : Option (String × String) :=
  match splitFirst ':' l with
  | some (name, ' ' :: value) => some (String.ofList name, String.ofList value)
  | _ => none

theorem readField_fieldLine {f : String × String} (h : ':' ∉ f.1.toList) : readField (fieldLine f) = some f := by
  simp [readField, fieldLine, splitFirst_append _ h]

def toLines (h : TextHead) : List (List Char) := h.start :: h.fields.map fieldLine

def ofLines : List (List Char) → Option TextHead
  | [] => none
  | start :: fields => (fields.mapM readField).map fun fields => { start, fields }

theorem ofLines_toLines {h : TextHead} (hwf : h.WF) : ofLines h.toLines = some h := by
  have hfields : (h.fields.map fieldLine).mapM readField = some h.fields := by
    have hall := fun f hf => (hwf.names f hf).1
    generalize h.fields = fields at hall
    induction fields with
    | nil => rfl
    | cons f fields ih =>
      rw [List.map_cons, List.mapM_cons, readField_fieldLine (hall f (List.mem_cons_self ..)),
        ih fun g hg => hall g (List.mem_cons_of_mem _ hg)]
      rfl
  simp [ofLines, toLines, hfields]

def encode (h : TextHead) : List Char := h.toLines.flatMap encodeLine ++ encodeLine []

def read (p : List Char) : Reading TextHead Char := (readList List.isEmpty readLine p).map ofLines

theorem reads : SelfDelimiting WF encode read := by
  have hlines := readLine_reads.list List.isEmpty List.not_mem_nil List.isEmpty_nil
  refine hlines.map (g := toLines) ?_ fun h hwf => ofLines_toLines hwf
  intro h hwf l hl
  rcases List.mem_cons.1 hl with rfl | hl
  · exact ⟨hwf.start, by simpa using hwf.start_ne⟩
  · obtain ⟨f, hf, rfl⟩ := List.mem_map.1 hl
    obtain ⟨-, hname⟩ := hwf.names f hf
    have hvalue := hwf.values f hf
    exact ⟨by simp [fieldLine, hname, hvalue], by simp [fieldLine]⟩

/-- A head begins with its start line. -/
theorem start_prefix {p rest : List Char} {h : TextHead} (hr : read p = .done h rest) : h.start <+: p := by
  unfold read readList readItems at hr
  cases hline : readLine p with
  | done l rest' =>
    rw [readLine_eq hline]
    rw [hline] at hr
    simp only at hr
    split at hr
    · cases hr
    · cases hitems : readItems List.isEmpty readLine p.length rest' with
      | done ls rest'' =>
        rw [hitems] at hr
        simp only [Reading.map, ofLines] at hr
        cases hm : ls.mapM readField with
        | none => rw [hm] at hr; cases hr
        | some fields =>
          rw [hm] at hr
          cases hr
          rw [encodeLine, List.append_assoc]
          exact List.prefix_append _ _
      | more | failed => rw [hitems] at hr; cases hr
  | more | failed => rw [hline] at hr; cases hr

end TextHead

end HttpSurvey.Lib
