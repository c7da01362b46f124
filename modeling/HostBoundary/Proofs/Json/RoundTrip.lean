-- SUMMARY: Reading undoes writing for documents of integers up to the bound on nesting, stops for depth beyond it, and gives no deeper document and no repeated key; no two documents are written alike.
import HostBoundary.Json.Reader
import HostBoundary.Json.StringLiteral.RoundTrip
import HostBoundary.Proofs.Json.Bracketed
import HostBoundary.Proofs.Json.Merging

/-!
# Writing and reading documents

The compact form of a document whose numbers are integers is read as that document, whatever comes
behind it, as long as arrays and objects are no deeper than the reader allows; a deeper one is
stopped at the first bracket that is too many. As the bound is free, a compact form belongs to one
document only, at any depth. In the other direction, whatever a text is, the document read from it
keeps the bound and repeats no key.
-/

namespace HostBoundary

namespace Json

/-! ## The beginning of a document -/

theorem ne_of_isDigit {c d : Char} (hc : c.isDigit) (hd : d.isDigit = false) : c ≠ d := by
  rintro rfl
  rw [hc] at hd
  cases hd

theorem isBlank_of_isDigit {c : Char} (h : c.isDigit) : isBlank c = false := by
  rw [isBlank, beq_false_of_ne (ne_of_isDigit h (d := ' ') rfl),
    beq_false_of_ne (ne_of_isDigit h (d := '\n') rfl),
    beq_false_of_ne (ne_of_isDigit h (d := '\t') rfl),
    beq_false_of_ne (ne_of_isDigit h (d := '\r') rfl)]
  rfl

/-- An integer begins with its sign or with a digit. -/
theorem exists_integer_eq_cons (n : Int) :
    ∃ c cs, Decimal.integer n = c :: cs ∧ (c = '-' ∨ c.isDigit) := by
  obtain ⟨d, ds, hd⟩ := List.exists_cons_of_ne_nil (Decimal.digits_ne_nil n.natAbs)
  by_cases hn : n < 0
  · exact ⟨'-', Decimal.digits n.natAbs, if_pos hn, .inl rfl⟩
  · have hdigit : d.isDigit := Decimal.isDigit_of_mem_digits (hd ▸ List.mem_cons_self)
    exact ⟨d, ds, (if_neg hn).trans hd, .inr hdigit⟩

/-- A document in compact form begins neither with a blank nor with the end of an array. -/
theorem exists_write_eq_cons {doc : Json} (h : doc.isIntegral) :
    ∃ c cs, doc.write = c :: cs ∧ isBlank c = false ∧ c ≠ ']' := by
  cases doc with
  | null => exact ⟨_, _, rfl, rfl, by decide⟩
  | bool value =>
    cases value with
    | false => exact ⟨_, _, rfl, rfl, by decide⟩
    | true => exact ⟨_, _, rfl, rfl, by decide⟩
  | number n =>
    cases n with
    | int n hn =>
      obtain ⟨c, cs, hwrite, hc⟩ := exists_integer_eq_cons n
      refine ⟨c, cs, hwrite, ?_⟩
      rcases hc with rfl | hdigit
      · exact ⟨rfl, by decide⟩
      · exact ⟨isBlank_of_isDigit hdigit, ne_of_isDigit hdigit rfl⟩
    | float x => exact absurd h Bool.false_ne_true
  | string text => exact ⟨_, _, rfl, rfl, by decide⟩
  | array items => exact ⟨_, _, rfl, rfl, by decide⟩
  | object fields => exact ⟨_, _, rfl, rfl, by decide⟩

/-! ## Single values -/

variable {inner : Option (Scan Json)} {rest : List Char}

/-- A string is read as it was written. -/
theorem scanForm_string (text : String) :
    scanForm inner (StringLiteral.write text ++ rest) = .ok (.string text, rest) := by
  have hform (cs : List Char) : scanForm inner ('"' :: cs) =
      StringLiteral.scan cs >>= fun read => .ok (.string read.1, read.2) := rfl
  have hwrite : StringLiteral.write text = '"' :: (StringLiteral.write text).tail := rfl
  rw [hwrite, List.cons_append, hform, StringLiteral.scan_write]
  rfl

/-- An integer is read as a number. -/
theorem scanForm_integer_eq (n : Int) :
    scanForm inner (Decimal.integer n ++ rest) =
      scanNumber (Decimal.integer n ++ rest) >>= fun read => .ok (.number read.1, read.2) := by
  obtain ⟨c, cs, hwrite, hc⟩ := exists_integer_eq_cons n
  rw [hwrite, List.cons_append]
  rcases hc with rfl | hdigit
  · rfl
  · rw [scanForm, skipBlank_cons (isBlank_of_isDigit hdigit)]
    simp only [if_neg (ne_of_isDigit hdigit (d := 'n') rfl),
      if_neg (ne_of_isDigit hdigit (d := 't') rfl), if_neg (ne_of_isDigit hdigit (d := 'f') rfl),
      if_neg (ne_of_isDigit hdigit (d := '"') rfl), hdigit, Bool.or_true, if_true]

/-- An integer is read as it was written. -/
theorem scanForm_integer {n : Int} (h : IsWord n) (hrest : EndsNumber rest) :
    scanForm inner (Decimal.integer n ++ rest) = .ok (.number (.int n h), rest) := by
  rw [scanForm_integer_eq, scanNumber_integer h hrest]
  rfl

/-- A scalar is read alike at every depth. -/
theorem exists_scanValue_eq (n : Nat) : ∃ inner, scanValue n = scanForm inner := by
  cases n with
  | zero => exact ⟨none, rfl⟩
  | succ n => exact ⟨some (scanValue n), rfl⟩

/-- The key and the colon of a field are read, and then its value. -/
theorem scanField_writeField (value : Scan Json) (fields : Fields) (field : String × Json) :
    scanField value fields (writeField field ++ rest) =
      value (field.2.write ++ rest) >>= fun read =>
        .ok (fields ++ [(field.1, read.1)], read.2) := by
  have hkey : scanKey (writeField field ++ rest) = .ok (field.1, ':' :: (field.2.write ++ rest)) := by
    have hform (cs : List Char) : scanKey ('"' :: cs) = StringLiteral.scan cs := rfl
    have hwrite : StringLiteral.write field.1 = '"' :: (StringLiteral.write field.1).tail := rfl
    rw [writeField, hwrite, List.append_assoc, List.cons_append, hform, StringLiteral.scan_write,
      List.cons_append]
  rw [scanField, hkey]
  rfl

/-! ## Documents in compact form -/

/-- A document of integers is read as it was written if it is no deeper than the bound. If it is
deeper, reading stops for that. -/
theorem scanValue_write {doc : Json} : doc.isIntegral → ∀ n rest, EndsNumber rest →
    Reads (doc.depth ≤ n) doc rest (scanValue n (doc.write ++ rest)) := by
  induction doc using induct with
  | null =>
    intro _ n rest _
    obtain ⟨inner, hn⟩ := exists_scanValue_eq n
    rw [hn]
    exact (Reads.ok null rest).of_iff (iff_true_intro n.zero_le)
  | bool value =>
    intro _ n rest _
    obtain ⟨inner, hn⟩ := exists_scanValue_eq n
    rw [hn]
    cases value with
    | false => exact (Reads.ok (bool false) rest).of_iff (iff_true_intro n.zero_le)
    | true => exact (Reads.ok (bool true) rest).of_iff (iff_true_intro n.zero_le)
  | number m =>
    intro h n rest hrest
    obtain ⟨inner, hn⟩ := exists_scanValue_eq n
    cases m with
    | int m hm =>
      rw [hn, write, writeNumber, scanForm_integer hm hrest]
      exact (Reads.ok _ rest).of_iff (iff_true_intro n.zero_le)
    | float x => exact absurd h Bool.false_ne_true
  | string text =>
    intro _ n rest _
    obtain ⟨inner, hn⟩ := exists_scanValue_eq n
    rw [hn, write, scanForm_string]
    exact (Reads.ok _ rest).of_iff (iff_true_intro n.zero_le)
  | array items ih =>
    intro h n rest _
    rw [isIntegral, isIntegralItems_iff] at h
    have htext : (array items).write ++ rest =
        '[' :: (Text.join ',' (items.map write) ++ Bracket.list.closing :: rest) := by
      rw [write, writeItems_eq_join, List.cons_append, List.append_assoc]
      rfl
    cases n with
    | zero =>
      refine ⟨fun hdepth => absurd hdepth (Nat.not_succ_le_zero _), fun _ => ?_⟩
      rw [htext]
      exact ⟨_, rfl, rfl⟩
    | succ n =>
      have hitems : ∀ item ∈ items,
          IsElement .list (scanItem (scanValue n)) write (fun item => item.depth ≤ n) item := by
        intro item hitem
        refine ⟨exists_write_eq_cons (h item hitem), ?_⟩
        intro found rest hrest
        exact (ih item hitem (h item hitem) n rest hrest).map fun item => found ++ [item]
      rw [htext]
      exact ((elements_join rest hitems).map array).of_iff depth_array_le_iff
  | object fields ih =>
    intro h n rest _
    rw [isIntegral, isIntegralFields_iff] at h
    have htext : (object fields).write ++ rest =
        '{' :: (Text.join ',' (fields.map writeField) ++ Bracket.object.closing :: rest) := by
      rw [write, writeFields_eq_join, List.cons_append, List.append_assoc]
      rfl
    cases n with
    | zero =>
      refine ⟨fun hdepth => absurd hdepth (Nat.not_succ_le_zero _), fun _ => ?_⟩
      rw [htext]
      exact ⟨_, rfl, rfl⟩
    | succ n =>
      have hfields : ∀ field ∈ fields,
          IsElement .object (scanField (scanValue n)) writeField (fun field => field.2.depth ≤ n)
            field := by
        intro field hfield
        refine ⟨⟨_, _, rfl, rfl, by decide⟩, ?_⟩
        intro found rest hrest
        rw [scanField_writeField]
        exact (ih field hfield (h field hfield) n rest hrest).map
          fun value => found ++ [(field.1, value)]
      rw [htext]
      exact ((elements_join rest hfields).map object).of_iff depth_object_le_iff

/-- A compact text is read as its document, or stopped somewhere for its depth. -/
theorem parseTree_toText {doc : Json} (h : doc.isIntegral) :
    (doc.depth ≤ maxDepth → parseTree doc.toText = .ok doc) ∧
      (maxDepth < doc.depth → ∃ place, parseTree doc.toText = .error ⟨.tooDeep, some place⟩) := by
  have hreads := scanValue_write h maxDepth [] endsNumber_nil
  rw [List.append_nil] at hreads
  constructor
  · intro hdepth
    rw [parseTree, readAll, toText, String.toList_ofList, hreads.1 hdepth]
    rfl
  · intro hdepth
    obtain ⟨⟨cause, left, ahead⟩, hstop, hcause⟩ := hreads.2 (Nat.not_le.mpr hdepth)
    obtain rfl : cause = .tooDeep := hcause
    have hparse : parseTree doc.toText = .error (Stop.toError ⟨.tooDeep, left, ahead⟩ doc.write) := by
      rw [parseTree, readAll, toText, String.toList_ofList, hstop]
    exact ⟨_, hparse⟩

/-- A compact text is read as its document if no key repeats in it. -/
theorem parse_toText {doc : Json} (h : doc.isIntegral) (hmerged : doc.IsMerged)
    (hdepth : doc.depth ≤ maxDepth) : parse doc.toText = .ok doc := by
  rw [parse, (parseTree_toText h).1 hdepth, Except.map, merged_eq_self hmerged]

/-- A compact text of a document that is too deep is not read at all. -/
theorem parse_toText_of_lt {doc : Json} (h : doc.isIntegral) (hdepth : maxDepth < doc.depth) :
    ∃ place, parse doc.toText = .error ⟨.tooDeep, some place⟩ := by
  obtain ⟨place, hplace⟩ := (parseTree_toText h).2 hdepth
  exact ⟨place, by rw [parse, hplace, Except.map]⟩

/-! ## Unique readability -/

/-- Two documents of integers that are written at the beginning of one text are the same document and
end at the same place, however deep they are. -/
theorem write_append_inj {doc other : Json} {left : List Char} (h : doc.isIntegral)
    (hother : other.isIntegral) (hrest : EndsNumber rest) (hleft : EndsNumber left)
    (heq : doc.write ++ rest = other.write ++ left) : doc = other ∧ rest = left := by
  -- Both are read back within a bound that neither exceeds, and reading is a function of the text.
  let bound := max doc.depth other.depth
  have hdoc : scanValue bound (doc.write ++ rest) = .ok (doc, rest) :=
    (scanValue_write h bound rest hrest).1 (Nat.le_max_left _ _)
  have hread : scanValue bound (other.write ++ left) = .ok (other, left) :=
    (scanValue_write hother bound left hleft).1 (Nat.le_max_right _ _)
  rw [heq, hread] at hdoc
  cases hdoc
  exact ⟨rfl, rfl⟩

/-- No two documents of integers have the same compact form. -/
theorem write_inj {doc other : Json} (h : doc.isIntegral) (hother : other.isIntegral)
    (heq : doc.write = other.write) : doc = other :=
  (write_append_inj h hother endsNumber_nil endsNumber_nil (congrArg (· ++ []) heq)).1

/-- A document of integers is what was found if that has its compact form. -/
theorem eq_ok_of_write {ε : Type} {result : Except ε Json} {doc : Json} (h : doc.isIntegral)
    (hfound : result.toOption.map (fun found => (found.isIntegral, found.write)) = some (true, doc.write)) :
    result = .ok doc := by
  cases result with
  | error e => cases hfound
  | ok found =>
    obtain ⟨hintegral, hwrite⟩ := Prod.mk.inj (Option.some.inj hfound)
    rw [write_inj hintegral h hwrite]

/-! ## What is read from any text -/

/-- A computation that succeeds succeeds in its first part. -/
theorem exists_of_bind_eq_ok {α β : Type} {result : Except Stop α} {next : α → Except Stop β} {b : β}
    (h : result >>= next = .ok b) : ∃ a, result = .ok a ∧ next a = .ok b := by
  cases result with
  | error stop => cases h
  | ok a => exact ⟨a, rfl, h⟩

/-- What is read as a value is a scalar, or was read element by element from inside its brackets. -/
theorem scanForm_cases {cs : List Char} {doc : Json} (h : scanForm inner cs = .ok (doc, rest)) :
    doc.depth = 0 ∨ ∃ value, inner = some value ∧ ∃ inside,
      (∃ items, doc = .array items ∧
        elements .list (scanItem value) [] inside = .ok (items, rest)) ∨
      (∃ fields, doc = .object fields ∧
        elements .object (scanField value) [] inside = .ok (fields, rest)) := by
  unfold scanForm at h
  split at h
  · cases h
  split at h
  · obtain ⟨left, -, h⟩ := exists_of_bind_eq_ok h
    cases h
    exact .inl rfl
  split at h
  · obtain ⟨left, -, h⟩ := exists_of_bind_eq_ok h
    cases h
    exact .inl rfl
  split at h
  · obtain ⟨left, -, h⟩ := exists_of_bind_eq_ok h
    cases h
    exact .inl rfl
  split at h
  · obtain ⟨text, -, h⟩ := exists_of_bind_eq_ok h
    cases h
    exact .inl rfl
  split at h
  · obtain ⟨n, -, h⟩ := exists_of_bind_eq_ok h
    cases h
    exact .inl rfl
  split at h
  · split at h
    · cases h
    · obtain ⟨items, hitems, h⟩ := exists_of_bind_eq_ok h
      cases h
      exact .inr ⟨_, rfl, _, .inl ⟨_, rfl, hitems⟩⟩
  split at h
  · split at h
    · cases h
    · obtain ⟨fields, hfields, h⟩ := exists_of_bind_eq_ok h
      cases h
      exact .inr ⟨_, rfl, _, .inr ⟨_, rfl, hfields⟩⟩
  · cases h

/-- Nothing that is read is deeper than the bound. -/
theorem depth_le_of_scanValue {n : Nat} {cs : List Char} {doc : Json}
    (h : scanValue n cs = .ok (doc, rest)) : doc.depth ≤ n := by
  induction n generalizing cs doc rest with
  | zero =>
    rcases scanForm_cases h with hscalar | ⟨value, hinner, -⟩
    · exact Nat.le_of_eq hscalar
    · cases hinner
  | succ n ih =>
    rcases scanForm_cases h with
      hscalar | ⟨value, hinner, inside, ⟨items, rfl, hitems⟩ | ⟨fields, rfl, hfields⟩⟩
    · exact hscalar ▸ Nat.zero_le _
    · cases hinner
      rw [depth_array_le_iff]
      refine holds_of_elements (fun items => ∀ item ∈ items, item.depth ≤ n) ?_ ?_ hitems
      · intro items cs next rest hitems hnext
        obtain ⟨item, hitem, hnext⟩ := exists_of_bind_eq_ok hnext
        cases hnext
        intro member hmember
        rcases List.mem_append.mp hmember with hold | hnew
        · exact hitems member hold
        · cases List.mem_singleton.mp hnew
          exact ih hitem
      · exact fun item hitem => absurd hitem List.not_mem_nil
    · cases hinner
      rw [depth_object_le_iff]
      refine holds_of_elements (fun fields : Fields => ∀ field ∈ fields, field.2.depth ≤ n)
        ?_ ?_ hfields
      · intro fields cs next rest hfields hnext
        obtain ⟨key, -, hnext⟩ := exists_of_bind_eq_ok hnext
        obtain ⟨left, -, hnext⟩ := exists_of_bind_eq_ok hnext
        obtain ⟨value, hvalue, hnext⟩ := exists_of_bind_eq_ok hnext
        cases hnext
        intro member hmember
        rcases List.mem_append.mp hmember with hold | hnew
        · exact hfields member hold
        · cases List.mem_singleton.mp hnew
          exact ih hvalue
      · exact fun field hfield => absurd hfield List.not_mem_nil

/-- What a text is read as repeats no key and keeps the bound on nesting. -/
theorem isMerged_and_depth_le_of_parse {text : String} {doc : Json} (h : parse text = .ok doc) :
    doc.IsMerged ∧ doc.depth ≤ maxDepth := by
  cases hscan : scanValue maxDepth text.toList with
  | error stop =>
    rw [parse, parseTree, readAll, hscan] at h
    cases h
  | ok read =>
    have hdepth := depth_le_of_scanValue hscan
    rw [parse, parseTree, readAll, hscan] at h
    dsimp only at h
    split at h
    · cases h
      exact ⟨isMerged_merged _, depth_merged_le hdepth⟩
    · cases h

end Json

end HostBoundary
