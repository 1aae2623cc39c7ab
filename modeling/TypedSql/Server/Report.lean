import TypedSql.Server

/-!
# Reports of failures

A server reports a failure in fields, each of them a letter and a text that a NUL ends; another NUL ends the report.

* `Report.written`, `Report.fields?`: fields as characters, and back; `Report.fields?_written` is the law.
* `Report.failure`: what a report means.
* `Report.failureOf`: what a server's severity, code and message come out as.
-/

namespace TypedSql.Report

/-- A letter that says what a text is about, and the text. -/
abbrev Field := Char × List Char

/-! ## Fields as characters -/

def written (fields : List Field) : List Char :=
  fields.flatMap (fun (letter, text) => letter :: text ++ ['\x00']) ++ ['\x00']

/-- The fields of characters, none of which may follow the end. -/
def fields? : List Char → Option (List Field)
  | [] => none
  | letter :: s =>
    if letter = '\x00' then if s.isEmpty then some [] else none
    else
      match _h : s.dropWhile (· != '\x00') with
      | [] => none
      | _ :: rest => (fields? rest).map ((letter, s.takeWhile (· != '\x00')) :: ·)
termination_by s => s.length
decreasing_by
  have := (List.dropWhile_suffix (l := s) (· != '\x00')).length_le
  rw [_h] at this
  simp only [List.length_cons] at this ⊢
  omega

theorem dropWhile_text {text : List Char} (h : '\x00' ∉ text) (rest : List Char) :
    (text ++ '\x00' :: rest).dropWhile (· != '\x00') = '\x00' :: rest := by
  induction text with
  | nil => simp
  | cons c text ih =>
    rw [List.mem_cons, not_or] at h
    simp [Ne.symm h.1, ih h.2]

theorem takeWhile_text {text : List Char} (h : '\x00' ∉ text) (rest : List Char) :
    (text ++ '\x00' :: rest).takeWhile (· != '\x00') = text := by
  induction text with
  | nil => simp
  | cons c text ih =>
    rw [List.mem_cons, not_or] at h
    simp [Ne.symm h.1, ih h.2]

theorem fields?_written {fields : List Field} (h : ∀ f ∈ fields, f.1 ≠ '\x00' ∧ '\x00' ∉ f.2) :
    fields? (written fields) = some fields := by
  induction fields with
  | nil => simp [written, fields?]
  | cons f fields ih =>
    obtain ⟨hletter, htext⟩ := h f (List.mem_cons_self ..)
    have hw : written (f :: fields) = f.1 :: (f.2 ++ '\x00' :: written fields) := by simp [written]
    rw [hw, fields?, if_neg hletter]
    split
    · next hd => simp [dropWhile_text htext] at hd
    · next hd =>
      rw [dropWhile_text htext, List.cons.injEq] at hd
      rw [← hd.2, ih fun g hg => h g (List.mem_cons_of_mem _ hg), takeWhile_text htext]
      rfl

/-! ## Meaning -/

/-- The last text with a letter. -/
def text? (fields : List Field) (letter : Char) : Option (List Char) :=
  ((fields.filter (·.1 == letter)).getLast?).map Prod.snd

/-- How grave a failure can be. -/
def severities : List String :=
  ["PANIC", "FATAL", "ERROR", "WARNING", "NOTICE", "DEBUG", "INFO", "LOG"]

/-- Whether a text can stand after its letter: grades and places have to be known ones. -/
def Field.isValid (f : Field) : Bool :=
  if f.1 = 'V' then severities.contains (String.ofList f.2)
  else if f.1 = 'P' ∨ f.1 = 'p' ∨ f.1 = 'L' then (readUnsigned? f.2).any (· < 2 ^ 32)
  else true

/-- Whether a place inside another text, unless a place in the own text is given, comes with that text. -/
def hasQuery (fields : List Field) : Bool :=
  (text? fields 'P').isSome || (text? fields 'p').isNone || (text? fields 'q').isSome

/-- What a report means: a failure with its code and message, if it can be made out. -/
def failure (report : List Char) : Failure :=
  match fields? report with
  | none => .garbled
  | some fields =>
    match text? fields 'S', text? fields 'C', text? fields 'M' with
    | some _, some code, some message =>
      if fields.all Field.isValid && hasQuery fields then .error (String.ofList code) (String.ofList message)
      else .garbled
    | _, _, _ => .garbled

/-- What a server's severity, code and message come out as. -/
def failureOf (severity code message : String) : Failure :=
  failure (written
    [('S', severity.toList), ('V', severity.toList), ('C', code.toList), ('M', message.toList)])

end TypedSql.Report
