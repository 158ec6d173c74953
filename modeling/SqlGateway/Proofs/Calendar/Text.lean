import SqlGateway.Calendar.Reader
import SqlGateway.Calendar.Text
import SqlGateway.Proofs.Number.Digits
import SqlGateway.Proofs.Text.Basic

/-!
# Written dates and times are read back

What is read from the front of a text is what was written there, if no digit follows: a date is the
date itself, whatever its year, and a time is the time without its fraction of a second.
-/

namespace SqlGateway.Calendar

open Number Text

variable {c : Char} {n width : Nat} {ds rest : List Char}

/-- The time without the fraction of its second. A leap second stays one. -/
def Time.wholeSeconds (t : Time) : Time where
  hour := t.hour
  minute := t.minute
  second := t.second
  nanosecond := if 1000000000 ≤ t.nanosecond then 1000000000 else 0
  valid := by
    obtain ⟨hhour, hminute, hsecond, -, hleap⟩ := t.valid
    refine ⟨hhour, hminute, hsecond, by split <;> decide, fun h => hleap ?_⟩
    by_contra hnot
    simp [hnot] at h

/-! ## Numbers -/

theorem readDigits?_append (hds : DigitRun ds) (hne : ds ≠ [])
    (hwidth : ds.length ≤ width) (hrest : Stops Char.isDigit rest) :
    readDigits? width (ds ++ rest) = some (digitsValue ds, rest) := by
  have htake : ((ds ++ rest).take width).takeWhile Char.isDigit = ds := by
    rw [List.take_append, List.take_of_length_le hwidth, (hrest.take _).takeWhile_append hds]
  simp [readDigits?, htake, hne]

theorem trimStart_of_digits (hds : DigitRun ds) (hne : ds ≠ []) :
    trimStart (ds ++ rest) = ds ++ rest := by
  obtain ⟨c, ds, rfl⟩ := List.exists_cons_of_ne_nil hne
  simp [trimStart, isBlank_of_isDigit (hds c List.mem_cons_self)]

theorem readPart?_paddedDigits (h : n < 100) (hrest : Stops Char.isDigit rest) :
    readPart? (paddedDigits 2 n ++ rest) = some (n, rest) := by
  have hdigits := digitRun_paddedDigits 2 n
  have hne := paddedDigits_ne_nil 2 n
  rw [readPart?, trimStart_of_digits hdigits hne, readDigits?_append hdigits hne
    (length_paddedDigits_le (by decide) h) hrest, digitsValue_paddedDigits]

/-- Without a sign a year has no more than four digits. -/
theorem readYear?_of_digits (hds : DigitRun ds) (hne : ds ≠ [])
    (hwidth : ds.length ≤ 4) (hrest : Stops Char.isDigit rest) :
    readYear? (ds ++ rest) = some ((digitsValue ds : Int), rest) := by
  rw [readYear?, trimStart_of_digits hds hne]
  split
  · rename_i r heq
    obtain ⟨c, ds, rfl⟩ := List.exists_cons_of_ne_nil hne
    obtain ⟨rfl, -⟩ := List.cons.inj heq
    exact absurd (hds _ List.mem_cons_self) (by decide)
  · rename_i r heq
    obtain ⟨c, ds, rfl⟩ := List.exists_cons_of_ne_nil hne
    obtain ⟨rfl, -⟩ := List.cons.inj heq
    exact absurd (hds _ List.mem_cons_self) (by decide)
  · rw [readDigits?_append hds hne hwidth hrest]
    rfl

/-- With a sign it may have any number of them. -/
theorem readYear?_of_sign (hds : DigitRun ds) (hne : ds ≠ []) (hrest : Stops Char.isDigit rest) :
    readYear? ('-' :: (ds ++ rest)) = some (-(digitsValue ds : Int), rest) ∧
      readYear? ('+' :: (ds ++ rest)) = some ((digitsValue ds : Int), rest) := by
  have hlength : ds.length ≤ (ds ++ rest).length := by simp
  have hdigits := readDigits?_append hds hne hlength hrest
  have hminus : trimStart ('-' :: (ds ++ rest)) = '-' :: (ds ++ rest) :=
    List.dropWhile_cons_of_neg (by decide)
  have hplus : trimStart ('+' :: (ds ++ rest)) = '+' :: (ds ++ rest) :=
    List.dropWhile_cons_of_neg (by decide)
  constructor
  · simp only [readYear?, hminus, hdigits, Option.map_some]
  · simp only [readYear?, hplus, hdigits, Option.map_some]

theorem readYear?_yearText (year : Int) (hrest : Stops Char.isDigit rest) :
    readYear? (yearText year ++ rest) = some (year, rest) := by
  have hdigits := digitRun_paddedDigits 4 year.natAbs
  have hne := paddedDigits_ne_nil 4 year.natAbs
  obtain ⟨hminus, hplus⟩ := readYear?_of_sign hdigits hne hrest
  rw [digitsValue_paddedDigits] at hminus hplus
  simp only [yearText]
  split
  · have hvalue : -(year.natAbs : Int) = year := by omega
    rwa [hvalue] at hminus
  have hvalue : (year.natAbs : Int) = year := by omega
  split
  · rwa [hvalue] at hplus
  · have hshort : (paddedDigits 4 year.natAbs).length ≤ 4 :=
      length_paddedDigits_le (by decide) (by omega)
    rw [readYear?_of_digits hdigits hne hshort hrest, digitsValue_paddedDigits, hvalue]

/-! ## Dates and times -/

theorem stops_hyphen (s : List Char) : Stops Char.isDigit ('-' :: s) :=
  .cons (by decide)

theorem stops_colon (s : List Char) : Stops Char.isDigit (':' :: s) :=
  .cons (by decide)

theorem daysInMonth_le (year : Int) (month : Nat) : daysInMonth year month ≤ 31 := by
  unfold daysInMonth
  repeat' split
  all_goals decide

theorem expect?_cons (c : Char) (s : List Char) : expect? c (c :: s) = some s := by
  simp [expect?]

theorem Date.ofParts?_eq (d : Date) : Date.ofParts? d.year d.month d.day = some d :=
  dif_pos d.valid

theorem readDate?_text (d : Date) (hrest : Stops Char.isDigit rest) :
    readDate? (d.text ++ rest) = some (d, rest) := by
  obtain ⟨-, -, -, hmonth, -, hday⟩ := d.valid
  have hday := Nat.le_trans hday (daysInMonth_le _ _)
  have htext : d.text ++ rest =
      yearText d.year ++ '-' :: (paddedDigits 2 d.month ++
        '-' :: (paddedDigits 2 d.day ++ rest)) := by
    simp [Date.text]
  have hyear := readYear?_yearText d.year
    (stops_hyphen (paddedDigits 2 d.month ++ '-' :: (paddedDigits 2 d.day ++ rest)))
  have hmonth := readPart?_paddedDigits (n := d.month) (by omega)
    (stops_hyphen (paddedDigits 2 d.day ++ rest))
  have hday := readPart?_paddedDigits (n := d.day) (by omega) hrest
  rw [htext, readDate?, hyear]
  simp [expect?_cons, hmonth, hday, d.ofParts?_eq]

theorem Time.ofParts?_eq (t : Time) :
    Time.ofParts? t.hour t.minute t.second t.nanosecond = some t :=
  dif_pos t.valid

/-- The second that is written is sixty in a leap second, and what is read as one. -/
theorem Time.ofParts?_wholeSeconds (t : Time) :
    (t.second + t.nanosecond / 1000000000 = 60 ∧
      Time.ofParts? t.hour t.minute 59 1000000000 = some t.wholeSeconds) ∨
    (t.second + t.nanosecond / 1000000000 ≠ 60 ∧
      Time.ofParts? t.hour t.minute (t.second + t.nanosecond / 1000000000) 0 =
        some t.wholeSeconds) := by
  obtain ⟨-, -, hsecond, hnanosecond, hleap⟩ := t.valid
  rw [← Time.ofParts?_eq t.wholeSeconds]
  simp only [Time.wholeSeconds]
  by_cases h : 1000000000 ≤ t.nanosecond
  · have hsecond := hleap h
    have hone : t.nanosecond / 1000000000 = 1 := by omega
    simp [hsecond, hone, h]
  · have hzero : t.nanosecond / 1000000000 = 0 := by omega
    simp [hzero, Nat.ne_of_lt hsecond, h]

theorem readTime?_text (t : Time) (hrest : Stops Char.isDigit rest) :
    readTime? (t.text ++ rest) = some (t.wholeSeconds, rest) := by
  obtain ⟨hhour, hminute, hsecond, hnanosecond, -⟩ := t.valid
  have hwritten : t.second + t.nanosecond / 1000000000 < 100 := by omega
  have htext : t.text ++ rest = paddedDigits 2 t.hour ++ ':' :: (paddedDigits 2 t.minute ++
      ':' :: (paddedDigits 2 (t.second + t.nanosecond / 1000000000) ++ rest)) := by
    simp [Time.text]
  have htime := t.ofParts?_wholeSeconds
  rw [htext]
  generalize t.second + t.nanosecond / 1000000000 = second at hwritten htime
  have hhour := readPart?_paddedDigits (n := t.hour) (by omega)
    (stops_colon (paddedDigits 2 t.minute ++ ':' :: (paddedDigits 2 second ++ rest)))
  have hminute := readPart?_paddedDigits (n := t.minute) (by omega)
    (stops_colon (paddedDigits 2 second ++ rest))
  have hsecond := readPart?_paddedDigits hwritten hrest
  rw [readTime?, hhour]
  rcases htime with ⟨rfl, htime⟩ | ⟨hsixty, htime⟩
  · simp [expect?_cons, hminute, hsecond, htime]
  · simp [expect?_cons, hminute, hsecond, hsixty, htime]

/-! ## Whole texts -/

theorem Date.read?_text (d : Date) : Date.read? d.text = some d := by
  have hread := readDate?_text d Stops.nil
  rw [List.append_nil] at hread
  rw [Date.read?, hread]
  rfl

theorem Time.read?_text (t : Time) : Time.read? t.text = some t.wholeSeconds := by
  have hread := readTime?_text t Stops.nil
  rw [List.append_nil] at hread
  rw [Time.read?, hread]
  rfl

theorem Timestamp.read?_text (ts : Timestamp) :
    Timestamp.read? ts.text = some ⟨ts.date, ts.time.wholeSeconds⟩ := by
  have hstops : Stops Char.isDigit (' ' :: ts.time.text) := .cons (by decide)
  have hdate := readDate?_text ts.date hstops
  have hspace : trimStart (' ' :: ts.time.text) = trimStart ts.time.text :=
    List.dropWhile_cons_of_pos (by decide)
  have htrim : trimStart ts.time.text = ts.time.text := by
    simp only [Time.text, List.append_assoc]
    exact trimStart_of_digits (digitRun_paddedDigits _ _) (paddedDigits_ne_nil _ _)
  have htime := readTime?_text ts.time Stops.nil
  rw [List.append_nil] at htime
  rw [Timestamp.read?, Timestamp.text, hdate]
  simp [hspace, htrim, htime, complete?]

/-! ## No white space -/

theorem isBlank_paddedDigits (width n : Nat) : ∀ c ∈ paddedDigits width n, isBlank c = false :=
  fun c hc => isBlank_of_isDigit (digitRun_paddedDigits width n c hc)

theorem isBlank_yearText (year : Int) : ∀ c ∈ yearText year, isBlank c = false := by
  have hdigits := isBlank_paddedDigits 4 year.natAbs
  simp only [yearText]
  split
  · exact List.forall_mem_cons.mpr ⟨by decide, hdigits⟩
  split
  · exact List.forall_mem_cons.mpr ⟨by decide, hdigits⟩
  · exact hdigits

theorem Date.isBlank_text (d : Date) : ∀ c ∈ d.text, isBlank c = false := by
  simp only [Date.text, List.forall_mem_append, List.forall_mem_cons]
  exact ⟨⟨isBlank_yearText _, by decide, isBlank_paddedDigits _ _⟩, by decide,
    isBlank_paddedDigits _ _⟩

theorem Time.isBlank_text (t : Time) : ∀ c ∈ t.text, isBlank c = false := by
  simp only [Time.text, List.forall_mem_append, List.forall_mem_cons]
  exact ⟨⟨isBlank_paddedDigits _ _, by decide, isBlank_paddedDigits _ _⟩, by decide,
    isBlank_paddedDigits _ _⟩

theorem Timestamp.isBlank_head (ts : Timestamp) : ∀ c ∈ ts.text.head?, isBlank c = false := by
  have hne : ts.date.text ≠ [] := by simp [Date.text]
  intro c hc
  rw [Timestamp.text, List.head?_append_of_ne_nil _ hne] at hc
  exact ts.date.isBlank_text c (List.mem_of_mem_head? hc)

theorem Timestamp.isBlank_getLast (ts : Timestamp) : ∀ c ∈ ts.text.getLast?, isBlank c = false := by
  have hne : ts.time.text ≠ [] := by simp [Time.text]
  intro c hc
  rw [Timestamp.text, List.getLast?_append_of_ne_nil _ (by simp),
    List.getLast?_cons_of_ne_nil hne] at hc
  exact ts.time.isBlank_text c (List.mem_of_mem_getLast? hc)

end SqlGateway.Calendar
