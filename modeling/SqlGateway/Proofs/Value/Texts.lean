import SqlGateway.Proofs.Calendar.Text
import SqlGateway.Proofs.Text.Trim
import SqlGateway.Value.Conversion

/-!
# Texts of values are read back

The text of an integer, a date, a time or a timestamp is read as the value that it was made from,
with any white space around it. Only the fraction of a second is lost, which the text does not have.
-/

namespace SqlGateway.Value

open Number Calendar Text

/-- Every value of the four families has a text, and a text with white space around it is read as
the text itself is. -/
theorem texts_read_back :
    (∀ i : Int64, ∃ s, (Value.int i).toText = .ok (some s) ∧
      (Value.int i).toDecimal = .ok (some s) ∧ ∀ t : String, Surrounds t.toList s.toList →
        (Value.text t).toInteger = .ok (some i) ∧ (Value.decimal t).toInteger = .ok (some i)) ∧
    (∀ d : Date, ∃ s, (Value.date d).toText = .ok (some s) ∧
      ∀ t : String, Surrounds t.toList s.toList → (Value.text t).toDate = .ok (some d)) ∧
    (∀ time : Time, ∃ s, (Value.time time).toText = .ok (some s) ∧
      ∀ t : String, Surrounds t.toList s.toList →
        (Value.text t).toTime = .ok (some time.wholeSeconds)) ∧
    (∀ ts : Timestamp, ∃ s, (Value.timestamp ts).toText = .ok (some s) ∧
      ∀ t : String, Surrounds t.toList s.toList →
        (Value.text t).toTimestamp = .ok (some ⟨ts.date, ts.time.wholeSeconds⟩)) := by
  refine ⟨fun i => ⟨_, rfl, rfl, fun t ht => ?_⟩, fun d => ⟨_, rfl, fun t ht => ?_⟩,
    fun time => ⟨_, rfl, fun t ht => ?_⟩, fun ts => ⟨_, rfl, fun t ht => ?_⟩⟩
  · rw [display, String.toList_ofList] at ht
    have htrim := ht.trim_solid (isBlank_integerText i)
    simp [toInteger, htrim, readInteger?_integerText, orMismatch]
  · rw [display, String.toList_ofList] at ht
    have htrim := ht.trim_solid d.isBlank_text
    simp [toDate, htrim, d.read?_text, orMismatch]
  · rw [display, String.toList_ofList] at ht
    have htrim := ht.trim_solid time.isBlank_text
    simp [toTime, htrim, time.read?_text, orMismatch]
  · rw [display, String.toList_ofList] at ht
    have htrim := ht.trim ts.isBlank_head ts.isBlank_getLast
    simp [toTimestamp, htrim, ts.read?_text, orMismatch]

/-- The least integer, a year before the year zero, and a leap second. -/
theorem texts_read_back_extremes :
    Surrounds "\t-9223372036854775808 ".toList "-9223372036854775808".toList ∧
    (Value.text "\t-9223372036854775808 ").toInteger = .ok (some Int64.minValue) ∧
    Surrounds "-0044-03-15\n".toList "-0044-03-15".toList ∧
    (Value.text "-0044-03-15\n").toDate = .ok (some ⟨-44, 3, 15, by decide⟩) ∧
    Surrounds "23:59:60".toList "23:59:60".toList ∧
    (Value.text "23:59:60").toTime = .ok (some ⟨23, 59, 59, 1000000000, by decide⟩) := by
  obtain ⟨hint, hdate, htime, -⟩ := texts_read_back
  obtain ⟨s, hs, -, hint⟩ := hint Int64.minValue
  obtain rfl : "-9223372036854775808" = s := by
    have htext : (Value.int Int64.minValue).toText = .ok (some "-9223372036854775808") := by
      decide +kernel
    rw [htext] at hs
    simpa using hs
  obtain ⟨s, hs, hdate⟩ := hdate ⟨-44, 3, 15, by decide⟩
  obtain rfl : "-0044-03-15" = s := by
    have htext : (Value.date ⟨-44, 3, 15, by decide⟩).toText = .ok (some "-0044-03-15") := by
      decide +kernel
    rw [htext] at hs
    simpa using hs
  obtain ⟨s, hs, htime⟩ := htime ⟨23, 59, 59, 1500000000, by decide⟩
  obtain rfl : "23:59:60" = s := by
    have htext : (Value.time ⟨23, 59, 59, 1500000000, by decide⟩).toText =
        .ok (some "23:59:60") := by
      decide +kernel
    rw [htext] at hs
    simpa using hs
  have h1 : Surrounds "\t-9223372036854775808 ".toList "-9223372036854775808".toList :=
    ⟨['\t'], [' '], by decide, by decide, by decide⟩
  have h2 : Surrounds "-0044-03-15\n".toList "-0044-03-15".toList :=
    ⟨[], ['\n'], by decide, by decide, by decide⟩
  have h3 : Surrounds "23:59:60".toList "23:59:60".toList :=
    ⟨[], [], by decide, by decide, by decide⟩
  exact ⟨h1, (hint _ h1).1, h2, hdate _ h2, h3, htime _ h3⟩

end SqlGateway.Value
