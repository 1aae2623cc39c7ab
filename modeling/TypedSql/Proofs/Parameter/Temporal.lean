import TypedSql.Proofs.Calendar.Text
import TypedSql.Proofs.Parameter.Binding

/-!
# Timestamps as parameters

* `Parameter.toTimestamp_blankText`, `Parameter.toTimestamp_text` : the text of a timestamp, with or without blanks
  around it, stands for that timestamp;
* `bindAt_timestampText` : it is bound to each type of dates and times as the timestamp itself is.
-/

namespace TypedSql
open Text (isBlank trimChars trimChars_between)

namespace Parameter
variable {before after : List Char}

theorem trimChars_timestampText (hbefore : ∀ c ∈ before, isBlank c = true) (hafter : ∀ c ∈ after, isBlank c = true)
    (t : Timestamp) : trimChars (before ++ (t.text.toList ++ after)) =
      Timestamp.dateText t.date ++ ' ' :: Timestamp.clockText t.clock := by
  rw [trimChars_between hbefore hafter, Timestamp.trimChars_text]

theorem toTimestamp_blankText (hbefore : ∀ c ∈ before, isBlank c = true) (hafter : ∀ c ∈ after, isBlank c = true)
    (t : Timestamp) : toTimestamp (.text (String.ofList (before ++ (t.text.toList ++ after)))) = .ok t := by
  have hread : Timestamp.read? (trimChars (before ++ (t.text.toList ++ after))) = some t := by
    rw [trimChars_between hbefore hafter, Timestamp.read?_text]
  simp only [toTimestamp, String.toList_ofList, hread, orElse]

theorem toTimestamp_text (t : Timestamp) : toTimestamp (.text t.text) = .ok t := by
  have h := toTimestamp_blankText (fun _ => List.not_mem_nil.elim) (fun _ => List.not_mem_nil.elim) t
  rwa [List.nil_append, List.append_nil, String.ofList_toList] at h

/-- What a type of dates and times makes of a value depends only on the timestamp that the value stands for. -/
theorem exists_convert_temporal {type : SqlType} (htype : type.isTemporal = true) (t : Timestamp) :
    ∃ p, ∀ v, toTimestamp v = .ok t → convert type v = .ok p := by
  cases type with
  | date => exact ⟨date t.date, fun v hv => by simp only [convert, hv, Except.map]⟩
  | time => exact ⟨time t.clock, fun v hv => by simp only [convert, hv, Except.map]⟩
  | timestamp => exact ⟨timestamp t, fun v hv => by simp only [convert, hv, Except.map]⟩
  | timestampTz => exact ⟨timestampTz t, fun v hv => by simp only [convert, hv, Except.map]⟩
  | _ => cases htype

end Parameter

/-- A timestamp and its text, which is also the string of its JSON form, are bound to the same parameter of any type of
dates and times, with any blanks around the text. The readers of a text with an offset and of a date alone refuse it. -/
theorem bindAt_timestampText (position : Nat) {type : SqlType} (htype : type.isTemporal = true) (t : Timestamp)
    {before after : List Char} (hbefore : ∀ c ∈ before, isBlank c = true)
    (hafter : ∀ c ∈ after, isBlank c = true) :
    let text := (Value.timestamp t).display
    let written := before ++ (text.toList ++ after)
    (Value.timestamp t).toJson = .string text ∧
      (∃ p, bindAt position type (.timestamp t) = .ok p ∧
        bindAt position type (.text (String.ofList written)) = .ok p) ∧
      Timestamp.readZoned? (trimChars written) = none ∧ Timestamp.readDate? (trimChars written) = none := by
  intro text written
  have htrim : trimChars written = Timestamp.dateText t.date ++ ' ' :: Timestamp.clockText t.clock :=
    Parameter.trimChars_timestampText hbefore hafter t
  obtain ⟨p, hp⟩ := Parameter.exists_convert_temporal htype t
  refine ⟨rfl, ⟨p, ?_, ?_⟩, ?_, ?_⟩
  · exact bindAt_of_convert rfl (hp _ rfl)
  · exact bindAt_of_convert rfl (hp _ (Parameter.toTimestamp_blankText hbefore hafter t))
  · rw [htrim, Timestamp.readZoned?_text]
  · rw [htrim, Timestamp.readDate?_text]

/-- A leap second in the year 44 before the year 1, counted as -43, between an ideographic space and a tab. -/
theorem bindAt_timestampText_leapSecond :
    let t : Timestamp := ⟨⟨-43, 3, 15, by decide⟩, ⟨11, 30, 59, 1250000000, by decide⟩⟩
    (Value.timestamp t).display = "-0043-03-15 11:30:60.250" ∧
      bindAt 3 .time (.text "\u3000-0043-03-15 11:30:60.250\t") = bindAt 3 .time (.timestamp t) ∧
      bindAt 3 .time (.timestamp t) = .ok (.time ⟨11, 30, 59, 1250000000, by decide⟩) := by
  intro t
  have hdisplay : (Value.timestamp t).display = "-0043-03-15 11:30:60.250" := by decide +kernel
  have hbefore : ∀ c ∈ ['\u3000'], isBlank c = true := List.forall_mem_singleton.2 rfl
  have hafter : ∀ c ∈ ['\t'], isBlank c = true := List.forall_mem_singleton.2 rfl
  obtain ⟨-, ⟨p, ht, htext⟩, -⟩ := @bindAt_timestampText 3 .time rfl t _ _ hbefore hafter
  refine ⟨hdisplay, ?_, rfl⟩
  rw [ht, ← htext, hdisplay]
  rfl

end TypedSql
