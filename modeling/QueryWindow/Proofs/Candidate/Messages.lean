import QueryWindow.Candidate
import QueryWindow.Proofs.Pattern.Stored
import QueryWindow.Proofs.Text.Quoting

/-!
# QueryWindow.Proofs.Candidate.Messages

**Messages say all there is to say** (`Rejection.eq_of_message_eq`): two rejections of the same
wording are the same, whatever texts they quote, and to the nanosecond of the timestamps they show.
How a message begins tells what kind of rejection it is. What follows is divided by characters that
cannot occur before them: a quoted text by its quotes, a shown timestamp by the bracket after it,
and a number by a space.

All that is in a message or in the text of a window is printable
(`Rejection.printable_message`, `Window.printable_text`), so that whoever reads a
log line by line reads one line for each.
-/

namespace QueryWindow

/-- What comes before the first occurrence of a character is fixed, and so is what comes after. -/
theorem append_cons_inj {α : Type} {a : α} {front front' back back' : List α} (h : a ∉ front)
    (h' : a ∉ front') :
    front ++ a :: back = front' ++ a :: back' ↔ front = front' ∧ back = back' := by
  refine ⟨fun heq => ?_, fun ⟨hfront, hback⟩ => by rw [hfront, hback]⟩
  induction front generalizing front' with
  | nil =>
      cases front' with
      | nil => exact ⟨rfl, (List.cons.inj heq).2⟩
      | cons b front' => exact absurd ((List.cons.inj heq).1 ▸ List.mem_cons_self) h'
  | cons b front ih =>
      cases front' with
      | nil => exact absurd ((List.cons.inj heq).1 ▸ List.mem_cons_self) h
      | cons c front' =>
          obtain ⟨rfl, hrest⟩ := List.cons.inj heq
          obtain ⟨hfront, hback⟩ := ih (fun hmem => h (List.mem_cons_of_mem _ hmem))
            (fun hmem => h' (List.mem_cons_of_mem _ hmem)) hrest
          exact ⟨congrArg (b :: ·) hfront, hback⟩

/-! ### Numbers -/

theorem Digits.ofNat_inj {a b : Nat} : ofNat 10 a = ofNat 10 b ↔ a = b := by
  refine ⟨fun h => ?_, congrArg (ofNat 10)⟩
  have hvalue := congrArg (value 10) h
  rwa [value_ofNat (by decide) (by decide), value_ofNat (by decide) (by decide)] at hvalue

theorem Digits.hyphen_not_mem_ofNat (n : Nat) : '-' ∉ ofNat 10 n := fun h =>
  absurd (isDigit_of_mem_ofNat h) (by decide)

/-- Different numbers have different digits or a different sign. -/
theorem Digits.ofInt_inj {a b : Int} : ofInt a = ofInt b ↔ a = b := by
  refine ⟨fun h => ?_, congrArg ofInt⟩
  unfold ofInt at h
  by_cases ha : a < 0 <;> by_cases hb : b < 0
  · rw [if_pos ha, if_pos hb] at h
    have habs := ofNat_inj.1 (List.cons.inj h).2
    omega
  · rw [if_pos ha, if_neg hb] at h
    exact absurd (h ▸ List.mem_cons_self) (hyphen_not_mem_ofNat b.natAbs)
  · rw [if_neg ha, if_pos hb] at h
    exact absurd (h ▸ List.mem_cons_self) (hyphen_not_mem_ofNat a.natAbs)
  · rw [if_neg ha, if_neg hb] at h
    have habs := ofNat_inj.1 h
    omega

/-! ### Timestamps as they are shown -/

/-- A digit, or a sign within a date or a time of day. -/
def isFigure (c : Char) : Bool := c.isDigit || c ∈ ['+', '-', ':', '.']

theorem isFigure_of_isDigit {c : Char} (h : c.isDigit = true) : isFigure c = true := by
  rw [isFigure, h]
  rfl

/-- A row of figures. -/
def Figures (cs : List Char) : Prop := ∀ c ∈ cs, isFigure c = true

namespace Figures

variable {cs ds : List Char} {c : Char}

theorem append (h : Figures cs) (hmore : Figures ds) : Figures (cs ++ ds) := fun c hc =>
  (List.mem_append.1 hc).elim (h c) (hmore c)

theorem cons (hc : isFigure c = true) (h : Figures cs) : Figures (c :: cs) :=
  List.forall_mem_cons.2 ⟨hc, h⟩

theorem nil : Figures [] := nofun

theorem of_isDigit (h : ∀ c ∈ cs, c.isDigit = true) : Figures cs := fun c hc =>
  isFigure_of_isDigit (h c hc)

theorem padded (width n : Nat) : Figures (Digits.padded width n) :=
  of_isDigit fun _ => Digits.isDigit_of_mem_padded

theorem ofInt (n : Int) : Figures (Digits.ofInt n) := by
  have hdigits : Figures (Digits.ofNat 10 n.natAbs) :=
    of_isDigit fun _ => Digits.isDigit_of_mem_ofNat
  unfold Digits.ofInt
  split
  · exact hdigits.cons (by decide)
  · exact hdigits

theorem writeYear (year : Int) : Figures (writeYear .zero year) := by
  unfold QueryWindow.writeYear
  split
  · exact padded 4 _
  · exact cons (by split <;> decide) (padded 4 _)

theorem writeFraction (nano : Nat) : Figures (writeFraction nano) := by
  rcases exists_fraction nano with ⟨-, htext⟩ | ⟨-, digits, hdigits, htext, -⟩
  · rw [htext]
    exact nil
  · rw [htext]
    exact cons (by decide) (of_isDigit hdigits.2)

/-- A sign that is no figure is not among figures. -/
theorem not_mem (h : Figures cs) (hc : isFigure c = false) : c ∉ cs := fun hmem =>
  absurd (h c hmem) (by rw [hc]; decide)

theorem printable (h : Figures cs) : Printable cs := by
  intro c hc
  have hfigure := h c hc
  rw [isFigure, Bool.or_eq_true] at hfigure
  rcases hfigure with hdigit | hsign
  · simp only [Char.isDigit, Bool.and_eq_true, decide_eq_true_eq] at hdigit
    have hlow : 48 ≤ c.toNat := hdigit.1
    have hhigh : c.toNat ≤ 57 := hdigit.2
    exact isPrintable_of_ascii (by omega) (by omega)
  · have hsigns : Printable ['+', '-', ':', '.'] := .of_ascii (by decide)
    exact hsigns c (of_decide_eq_true hsign)

end Figures

namespace Timestamp

/-- Date and time of day stand on the two sides of one character, whichever it is. -/
theorem exists_textWith_eq (t : Timestamp) : ∃ date time : List Char,
    Figures date ∧ Figures time ∧ ∀ joint, t.textWith joint = date ++ joint :: time := by
  have hdate : Figures (writeYear .zero t.date.year ++ '-' :: (Digits.padded 2 t.date.month ++
      '-' :: Digits.padded 2 t.date.day)) :=
    (Figures.writeYear _).append <| .cons rfl <| (Figures.padded 2 _).append <| .cons rfl <|
      .padded 2 _
  have htime : Figures (Digits.padded 2 t.display.hour ++ ':' ::
      (Digits.padded 2 t.display.minute ++ ':' ::
        (Digits.padded 2 t.display.second ++ writeFraction t.time.nano))) :=
    (Figures.padded 2 _).append <| .cons rfl <| (Figures.padded 2 _).append <| .cons rfl <|
      (Figures.padded 2 _).append <| .writeFraction _
  refine ⟨_, _, hdate, htime, fun joint => ?_⟩
  rw [textWith_eq]
  simp only [List.append_assoc, List.cons_append]

/-- **Timestamps that are shown alike are the same**, to the nanosecond. -/
theorem shownText_inj {t u : Timestamp} (ht : t.Valid) (hu : u.Valid) :
    t.shownText = u.shownText ↔ t = u := by
  refine ⟨fun h => ?_, congrArg shownText⟩
  obtain ⟨date, time, hdate, -, htext⟩ := t.exists_textWith_eq
  obtain ⟨date', time', hdate', -, htext'⟩ := u.exists_textWith_eq
  have hlist : date ++ ' ' :: time = date' ++ ' ' :: time' := by
    rw [← htext, ← htext']
    exact String.ofList_injective h
  obtain ⟨rfl, rfl⟩ := (append_cons_inj (hdate.not_mem rfl) (hdate'.not_mem rfl)).1 hlist
  -- The same parts with a letter between them are the texts by which both are stored.
  have hstored : t.storedText = u.storedText := by
    rw [storedText, storedText, htext, htext']
  have hread := ofStoredText_storedText ht
  rw [hstored, ofStoredText_storedText hu] at hread
  exact (Except.ok.inj hread).symm

/-- A shown timestamp is figures on the two sides of a space. -/
theorem exists_shownText_eq (t : Timestamp) : ∃ date time : List Char,
    Figures date ∧ Figures time ∧ t.shownText.toList = date ++ ' ' :: time := by
  obtain ⟨date, time, hdate, htime, htext⟩ := t.exists_textWith_eq
  refine ⟨date, time, hdate, htime, ?_⟩
  rw [shownText, String.toList_ofList, htext]

theorem bracket_not_mem_shownText (t : Timestamp) : ')' ∉ t.shownText.toList := by
  obtain ⟨date, time, hdate, htime, htext⟩ := t.exists_shownText_eq
  rw [htext, List.mem_append, List.mem_cons, not_or, not_or]
  exact ⟨hdate.not_mem rfl, by decide, htime.not_mem rfl⟩

theorem printable_shownText (t : Timestamp) : Printable t.shownText.toList := by
  obtain ⟨date, time, hdate, htime, htext⟩ := t.exists_shownText_eq
  rw [htext]
  have hspace : isPrintable ' ' = true := isPrintable_of_ascii (by decide) (by decide)
  exact hdate.printable.append (.cons hspace htime.printable)

/-- What is shown of a timestamp is its text and a fraction. -/
theorem toList_shownText (t : Timestamp) :
    t.shownText.toList = t.applicationText.toList ++ writeFraction t.time.nano := by
  have hmonth : Quantity.month.write .zero t = Digits.padded 2 t.date.month :=
    Quantity.write_of_valueOf rfl (fun heq => absurd heq (by decide)) rfl
  have hday : Quantity.day.write .zero t = Digits.padded 2 t.date.day :=
    Quantity.write_of_valueOf rfl (fun heq => absurd heq (by decide)) rfl
  rw [shownText, applicationText_eq, String.toList_ofList, String.toList_ofList,
    written_timestampItems, textWith, hmonth, hday]
  simp only [List.append_assoc, List.cons_append, List.nil_append]

end Timestamp

theorem Window.printable_text (window : Window) : Printable window.text.toList := by
  have hend : ∀ t : Timestamp, Printable t.applicationText.toList := by
    intro t c hc
    refine t.printable_shownText c ?_
    rw [t.toList_shownText]
    exact List.mem_append_left _ hc
  rw [toList_text]
  exact (hend _).append (.cons (isPrintable_of_ascii (by decide) (by decide)) (hend _))

/-! ### Messages -/

namespace Rejection

/-- The timestamps that a rejection is about are well-formed. -/
def Valid : Rejection → Prop
  | notOrdered start stop => start.Valid ∧ stop.Valid
  | _ => True

theorem toList_message_invalidStart (text : String) : (invalidStart text).message.toList =
    "Invalid range start: ".toList ++ (Quoted.quote text).toList :=
  String.toList_append

theorem toList_message_invalidStop (text : String) : (invalidStop text).message.toList =
    "Invalid range end: ".toList ++ (Quoted.quote text).toList :=
  String.toList_append

theorem toList_message_notOrdered (start stop : Timestamp) :
    (notOrdered start stop).message.toList = "Invalid date range: from (".toList ++
      (start.shownText.toList ++ ')' :: (" is not before to (".toList ++
        (stop.shownText.toList ++ [')']))) := by
  show ("Invalid date range: from (" ++ start.shownText ++ ") is not before to (" ++
    stop.shownText ++ ")").toList = _
  simp only [String.toList_append, List.append_assoc]
  rfl

theorem toList_message_spanExceeded (days limit : Int) :
    (spanExceeded days limit).message.toList = "Date range spans ".toList ++
      (Digits.ofInt days ++ ' ' :: ("days (at most ".toList ++
        (Digits.ofInt limit ++ ' ' :: "allowed)".toList))) := by
  show ("Date range spans " ++ String.ofList (Digits.ofInt days) ++ " days (at most " ++
    String.ofList (Digits.ofInt limit) ++ " allowed)").toList = _
  simp only [String.toList_append, String.toList_ofList, List.append_assoc]
  rfl

/-- The first fifteen characters of a message, which tell the kind of rejection. -/
def opening : Rejection → String
  | invalidStart _ => "Invalid range s"
  | invalidStop _ => "Invalid range e"
  | notOrdered _ _ => "Invalid date ra"
  | spanExceeded _ _ => "Date range span"

theorem take_message (reason : Rejection) :
    reason.message.toList.take 15 = reason.opening.toList := by
  cases reason with
  | invalidStart text =>
      rw [toList_message_invalidStart, List.take_append_of_le_length (by decide), opening]
      decide
  | invalidStop text =>
      rw [toList_message_invalidStop, List.take_append_of_le_length (by decide), opening]
      decide
  | notOrdered start stop =>
      rw [toList_message_notOrdered, List.take_append_of_le_length (by decide), opening]
      decide
  | spanExceeded days limit =>
      rw [toList_message_spanExceeded, List.take_append_of_le_length (by decide), opening]
      decide

/-- **A message belongs to one rejection only**, if the timestamps it shows are well-formed. -/
theorem eq_of_message_eq {a b : Rejection} (ha : a.Valid) (hb : b.Valid)
    (h : a.message = b.message) : a = b := by
  have hlist := congrArg String.toList h
  have hopening : a.opening = b.opening := by
    rw [← String.toList_inj, ← take_message, ← take_message, hlist]
  cases a <;> cases b
  case invalidStart.invalidStart text other =>
    rw [toList_message_invalidStart, toList_message_invalidStart] at hlist
    have hquote := String.toList_inj.1 (List.append_cancel_left hlist)
    rw [Quoted.quote_inj.1 hquote]
  case invalidStop.invalidStop text other =>
    rw [toList_message_invalidStop, toList_message_invalidStop] at hlist
    have hquote := String.toList_inj.1 (List.append_cancel_left hlist)
    rw [Quoted.quote_inj.1 hquote]
  case notOrdered.notOrdered start stop start' stop' =>
    rw [toList_message_notOrdered, toList_message_notOrdered] at hlist
    obtain ⟨hstart, hrest⟩ :=
      (append_cons_inj start.bracket_not_mem_shownText start'.bracket_not_mem_shownText).1
        (List.append_cancel_left hlist)
    have hstop := List.append_cancel_right (List.append_cancel_left hrest)
    rw [(Timestamp.shownText_inj ha.1 hb.1).1 (String.toList_inj.1 hstart),
      (Timestamp.shownText_inj ha.2 hb.2).1 (String.toList_inj.1 hstop)]
  case spanExceeded.spanExceeded days limit days' limit' =>
    rw [toList_message_spanExceeded, toList_message_spanExceeded] at hlist
    have hspace : ∀ n : Int, ' ' ∉ Digits.ofInt n := fun n => (Figures.ofInt n).not_mem rfl
    obtain ⟨hdays, hrest⟩ :=
      (append_cons_inj (hspace days) (hspace days')).1 (List.append_cancel_left hlist)
    have hlimit :=
      ((append_cons_inj (hspace limit) (hspace limit')).1 (List.append_cancel_left hrest)).1
    rw [Digits.ofInt_inj.1 hdays, Digits.ofInt_inj.1 hlimit]
  -- Rejections of two kinds begin differently.
  all_goals simp [opening] at hopening

/-- All of a message is printable. -/
theorem printable_message (reason : Rejection) : Printable reason.message.toList := by
  have hbracket : isPrintable ')' = true := isPrintable_of_ascii (by decide) (by decide)
  have hspace : isPrintable ' ' = true := isPrintable_of_ascii (by decide) (by decide)
  cases reason with
  | invalidStart text =>
      rw [toList_message_invalidStart]
      exact (Printable.of_ascii (by decide)).append (Quoted.printable_quote text)
  | invalidStop text =>
      rw [toList_message_invalidStop]
      exact (Printable.of_ascii (by decide)).append (Quoted.printable_quote text)
  | notOrdered start stop =>
      rw [toList_message_notOrdered]
      exact (Printable.of_ascii (by decide)).append <| start.printable_shownText.append <|
        .cons hbracket <| (Printable.of_ascii (by decide)).append <|
        stop.printable_shownText.append <| .cons hbracket .nil
  | spanExceeded days limit =>
      rw [toList_message_spanExceeded]
      exact (Printable.of_ascii (by decide)).append <| (Figures.ofInt days).printable.append <|
        .cons hspace <| (Printable.of_ascii (by decide)).append <|
        (Figures.ofInt limit).printable.append <| .cons hspace <| .of_ascii (by decide)

end Rejection

end QueryWindow
