import RequestDispatch.Proofs.Controller.Naming

/-!
# Substitution into Well-Formed Patterns

Values are substituted one after another, and for each of them the text is searched twice, together
with all that has been put in before. Still every placeholder is replaced as if by itself. A percent
sign stands nowhere but at the two ends of a placeholder, so a search can go wrong only between two
placeholders, where the sign that ends the first and the sign that begins the second enclose some
text. The patterns here have a character there that is in no key (`PatternPiece.Separated`), and
values have no percent sign, so this stays so when a placeholder becomes text.

A pattern is a list of literals and placeholders. Searching its text for a marker replaces exactly
the placeholders of that name (`PatternPiece.replaceFrom_marker`), and leaves a pattern of the same
kind. From this one step, by induction on the values, a whole substitution fills in every
placeholder (`PatternPiece.substitute_patternOf`). What it is filled with is looked up among the
values, so their order is of no account (`PatternPiece.substitute_fills`).
-/

namespace RequestDispatch

open Text

/-- The parts of a routed identity, which patterns have placeholders for. -/
inductive PatternKey where
  /-- The module. -/
  | module
  /-- The controller. -/
  | controller
  /-- The action. -/
  | action
deriving DecidableEq, Repr

/-- The name of a key. -/
def PatternKey.name : PatternKey → String
  | module => "module"
  | controller => "controller"
  | action => "action"

/-- A placeholder of a pattern. -/
structure Placeholder where
  /-- What it stands for. -/
  key : PatternKey
  /-- Whether that is put into camel case, as the name of the key is. -/
  camel : Bool
deriving DecidableEq, Repr

namespace Placeholder

variable (placeholder : Placeholder)

/-- The name between the percent signs. -/
def name : String :=
  if placeholder.camel then camelcase placeholder.key.name else placeholder.key.name

/-- What is written into a pattern. -/
def marker : String := "%" ++ placeholder.name ++ "%"

/-- What a value is replaced by. -/
def shown (value : String) : String := if placeholder.camel then camelcase value else value

theorem toList_marker : placeholder.marker.toList = '%' :: (placeholder.name.toList ++ ['%']) := by
  simp [marker]

/-- The names of keys are made of letters. -/
theorem isAlpha_of_mem_name {c : Char} (hc : c ∈ placeholder.name.toList) : c.isAlpha = true := by
  have hall : placeholder.name.toList.all Char.isAlpha = true := by
    rcases placeholder with ⟨_ | _ | _, _ | _⟩ <;> decide
  exact List.all_eq_true.mp hall c hc

theorem percent_not_mem_name : '%' ∉ placeholder.name.toList :=
  fun hmem => absurd (placeholder.isAlpha_of_mem_name hmem) (by decide)

/-- A name tells which placeholder it belongs to. -/
theorem name_injective : Function.Injective name := by
  rintro ⟨_ | _ | _, _ | _⟩ ⟨_ | _ | _, _ | _⟩ <;> decide

end Placeholder

/-- A piece of a pattern. -/
inductive PatternPiece where
  /-- Text that stands for itself. -/
  | literal (text : String)
  /-- A placeholder. -/
  | placeholder (slot : Placeholder)
deriving DecidableEq, Repr

namespace PatternPiece

/-- What is written for a piece. -/
def text : PatternPiece → String
  | literal text => text
  | placeholder slot => slot.marker

/-- The pattern that is made of pieces. -/
def patternOf (pieces : List PatternPiece) : String := String.join (pieces.map text)

/-- Before the next placeholder, if there is one, comes a character that is not a letter. -/
def BeginsApart : List PatternPiece → Prop
  | [] => True
  | literal text :: rest => (∃ c ∈ text.toList, c.isAlpha = false) ∨ BeginsApart rest
  | placeholder _ :: _ => False

/-- Between any placeholder and the next one comes a character that is not a letter. -/
def Separated : List PatternPiece → Prop
  | [] => True
  | literal _ :: rest => Separated rest
  | placeholder _ :: rest => BeginsApart rest ∧ Separated rest

/-- The literals of a pattern have no percent signs, and its placeholders are separated. -/
structure WellFormed (pieces : List PatternPiece) : Prop where
  /-- No literal has a percent sign. -/
  percent_not_mem : ∀ text, literal text ∈ pieces → '%' ∉ text.toList
  /-- There is more than letters between placeholders. -/
  separated : Separated pieces

/-- What a piece becomes when values are filled in, all at once: a placeholder with a value shows
it, and any other placeholder is left as it is. -/
def filled (values : List (PatternKey × String)) : PatternPiece → PatternPiece
  | literal text => literal text
  | placeholder slot =>
    match values.lookup slot.key with
    | some value => literal (slot.shown value)
    | none => placeholder slot

section Step

variable {pieces : List PatternPiece}

@[simp]
theorem toList_patternOf_nil : (patternOf []).toList = [] := rfl

@[simp]
theorem toList_patternOf_literal (text : String) :
    (patternOf (literal text :: pieces)).toList = text.toList ++ (patternOf pieces).toList := by
  simp [patternOf, PatternPiece.text]

@[simp]
theorem toList_patternOf_placeholder (slot : Placeholder) :
    (patternOf (placeholder slot :: pieces)).toList =
      slot.marker.toList ++ (patternOf pieces).toList := by
  simp [patternOf, PatternPiece.text]

theorem WellFormed.tail {piece : PatternPiece} (hpieces : WellFormed (piece :: pieces)) :
    WellFormed pieces := by
  refine ⟨fun text hmem => hpieces.percent_not_mem text (List.mem_cons_of_mem piece hmem), ?_⟩
  have hseparated := hpieces.separated
  cases piece with
  | literal text => exact hseparated
  | placeholder slot => exact hseparated.2

/-- What comes before the first percent sign of pieces that begin apart is not a name. -/
theorem exists_mem_before_of_beginsApart (hpieces : WellFormed pieces)
    (happart : BeginsApart pieces) (hpercent : '%' ∈ (patternOf pieces).toList) :
    ∃ c ∈ before (· = '%') (patternOf pieces).toList, c.isAlpha = false := by
  induction pieces with
  | nil => cases hpercent
  | cons piece pieces ih =>
    cases piece with
    | placeholder slot => cases happart
    | literal text =>
      have htext : '%' ∉ text.toList := hpieces.percent_not_mem text List.mem_cons_self
      rw [toList_patternOf_literal, before_append_of_not_mem htext]
      rcases happart with ⟨c, hc, halpha⟩ | hrest
      · exact ⟨c, List.mem_append_left _ hc, halpha⟩
      · rw [toList_patternOf_literal, List.mem_append] at hpercent
        obtain ⟨c, hc, halpha⟩ := ih hpieces.tail hrest (hpercent.resolve_left htext)
        exact ⟨c, List.mem_append_right _ hc, halpha⟩

/-- What a marker is compared with: a name is all that comes before the percent sign at its end. -/
theorem before_eq_name_of_starts {slot : Placeholder} {cs : List Char}
    (hstarts : slot.name.toList ++ ['%'] <+: cs) : before (· = '%') cs = slot.name.toList := by
  obtain ⟨rest, rfl⟩ := hstarts
  rw [List.append_assoc, before_append_of_not_mem slot.percent_not_mem_name]
  simp

/-- The percent sign that ends a placeholder does not begin another one. -/
theorem not_prefix_of_beginsApart (hpieces : WellFormed pieces) (happart : BeginsApart pieces)
    (slot : Placeholder) : ¬ slot.name.toList ++ ['%'] <+: (patternOf pieces).toList := by
  intro hstarts
  have hpercent : '%' ∈ (patternOf pieces).toList :=
    hstarts.subset (List.mem_append_right _ List.mem_cons_self)
  obtain ⟨c, hc, halpha⟩ := exists_mem_before_of_beginsApart hpieces happart hpercent
  -- then it would be a letter of the name
  rw [before_eq_name_of_starts hstarts] at hc
  exact absurd ((slot.isAlpha_of_mem_name hc).symm.trans halpha) (by decide)

/-- A piece after a text has been put in the place of a placeholder. -/
def put (slot : Placeholder) (value : String) : PatternPiece → PatternPiece
  | literal text => literal text
  | placeholder other => if other = slot then literal value else placeholder other

/-- In a marker of another name nothing is found, and nothing where it ends unless what follows it
begins like the marker that is looked for. -/
theorem replaceFrom_marker_append {slot other : Placeholder} (hother : other ≠ slot)
    {rest : List Char} (hrest : ¬ slot.name.toList ++ ['%'] <+: rest) (new : List Char) :
    replaceFrom slot.marker.toList new 0 (other.marker.toList ++ rest) =
      other.marker.toList ++ replaceFrom slot.marker.toList new 0 rest := by
  have hfirst : ¬ slot.marker.toList <+: '%' :: (other.name.toList ++ '%' :: rest) := by
    rw [Placeholder.toList_marker, List.cons_prefix_cons]
    rintro ⟨-, hstarts⟩
    -- the two names would end at the same percent sign
    have hbefore := before_eq_name_of_starts hstarts
    rw [before_append_of_not_mem other.percent_not_mem_name, before_cons_self, List.append_nil,
      String.toList_inj] at hbefore
    exact hother (Placeholder.name_injective hbefore)
  have hlast : ¬ slot.marker.toList <+: '%' :: rest := by
    rw [Placeholder.toList_marker, List.cons_prefix_cons]
    exact fun hstarts => hrest hstarts.2
  have hmarker : other.marker.toList ++ rest = '%' :: (other.name.toList ++ '%' :: rest) := by
    simp [Placeholder.toList_marker]
  calc replaceFrom slot.marker.toList new 0 (other.marker.toList ++ rest)
      = '%' :: replaceFrom slot.marker.toList new 0 (other.name.toList ++ '%' :: rest) := by
        rw [hmarker, replaceFrom_cons_of_not_starts hfirst]
    _ = '%' :: (other.name.toList ++ replaceFrom slot.marker.toList new 0 ('%' :: rest)) := by
        rw [Placeholder.toList_marker,
          replaceFrom_append_of_not_mem other.percent_not_mem_name]
    _ = other.marker.toList ++ replaceFrom slot.marker.toList new 0 rest := by
        rw [replaceFrom_cons_of_not_starts hlast, Placeholder.toList_marker other]
        simp

/-- Replacing a marker in the text of a pattern puts a text in the place of every placeholder that
the marker is written for, and changes nothing else. -/
theorem replaceFrom_marker (hpieces : WellFormed pieces) (slot : Placeholder) (value : String) :
    replaceFrom slot.marker.toList value.toList 0 (patternOf pieces).toList =
      (patternOf (pieces.map (put slot value))).toList := by
  induction pieces with
  | nil => simp
  | cons piece pieces ih =>
    rw [List.map_cons]
    cases piece with
    | literal text =>
      -- without a percent sign, nothing is found in it
      have htext : '%' ∉ text.toList := hpieces.percent_not_mem text List.mem_cons_self
      rw [put, toList_patternOf_literal, toList_patternOf_literal, ← ih hpieces.tail,
        Placeholder.toList_marker, replaceFrom_append_of_not_mem htext]
    | placeholder other =>
      rw [put, toList_patternOf_placeholder]
      split
      · -- the search goes on behind the marker
        rename_i hsame
        subst hsame
        rw [replaceFrom_append_self (by simp [Placeholder.toList_marker]), ih hpieces.tail,
          toList_patternOf_literal]
      · rename_i hother
        rw [toList_patternOf_placeholder, ← ih hpieces.tail, replaceFrom_marker_append hother]
        exact not_prefix_of_beginsApart hpieces.tail hpieces.separated.1 slot

theorem BeginsApart.put (slot : Placeholder) (value : String) (happart : BeginsApart pieces) :
    BeginsApart (pieces.map (put slot value)) := by
  induction pieces with
  | nil => exact happart
  | cons piece pieces ih =>
    cases piece with
    | literal text => exact happart.imp_right ih
    | placeholder other => cases happart

theorem Separated.put (slot : Placeholder) (value : String) (hseparated : Separated pieces) :
    Separated (pieces.map (put slot value)) := by
  induction pieces with
  | nil => exact hseparated
  | cons piece pieces ih =>
    cases piece with
    | literal text => exact ih hseparated
    | placeholder other =>
      rw [List.map_cons, PatternPiece.put]
      split
      · -- the placeholders on its two sides are further apart now
        exact ih hseparated.2
      · exact ⟨hseparated.1.put slot value, ih hseparated.2⟩

/-- A pattern stays well formed when a text without percent signs is put into it. -/
theorem WellFormed.put (hpieces : WellFormed pieces) (slot : Placeholder) {value : String}
    (hvalue : '%' ∉ value.toList) : WellFormed (pieces.map (put slot value)) := by
  refine ⟨fun text hmem => ?_, hpieces.separated.put slot value⟩
  obtain ⟨piece, hpiece, hput⟩ := List.mem_map.mp hmem
  cases piece with
  | literal other =>
    cases hput
    exact hpieces.percent_not_mem text hpiece
  | placeholder other =>
    by_cases hsame : other = slot
    · obtain rfl : value = text := by simpa [PatternPiece.put, hsame] using hput
      exact hvalue
    · simp [PatternPiece.put, hsame] at hput

/-- A piece after a key has been given a value: both of its placeholders show it. -/
def give (key : PatternKey) (value : String) : PatternPiece → PatternPiece
  | literal text => literal text
  | placeholder slot =>
    if slot.key = key then literal (slot.shown value) else placeholder slot

/-- A key is given a value by putting it in as it is, and then in camel case. -/
theorem give_eq_put (key : PatternKey) (value : String) :
    give key value = put ⟨key, true⟩ (camelcase value) ∘ put ⟨key, false⟩ value := by
  funext piece
  cases piece with
  | literal text => rfl
  | placeholder slot =>
    obtain ⟨other, camel⟩ := slot
    by_cases hkey : other = key
    · cases camel <;> simp [give, PatternPiece.put, Placeholder.shown, hkey]
    · simp [give, PatternPiece.put, hkey]

theorem WellFormed.give (hpieces : WellFormed pieces) (key : PatternKey) {value : String}
    (hvalue : '%' ∉ value.toList) : WellFormed (pieces.map (give key value)) := by
  have hcamel : '%' ∉ (camelcase value).toList := fun hmem =>
    hvalue (mem_of_mem_camelcase hmem (by decide)).1
  rw [give_eq_put, ← List.map_map]
  exact (hpieces.put ⟨key, false⟩ hvalue).put ⟨key, true⟩ hcamel

/-- Substituting one value gives it to its key. -/
theorem substituteKey_patternOf (hpieces : WellFormed pieces) (key : PatternKey) {value : String}
    (hvalue : '%' ∉ value.toList) :
    substituteKey (patternOf pieces) key.name value = patternOf (pieces.map (give key value)) := by
  have hraw := replaceFrom_marker hpieces ⟨key, false⟩ value
  have hcamel := replaceFrom_marker (hpieces.put ⟨key, false⟩ hvalue) ⟨key, true⟩ (camelcase value)
  rw [Placeholder.toList_marker] at hraw hcamel
  rw [← String.toList_inj, toList_substituteKey, give_eq_put, ← List.map_map, ← hcamel, ← hraw]
  rfl

end Step

/-! ## Whole substitutions -/

theorem filled_nil : filled [] = id := by
  funext piece
  cases piece <;> rfl

/-- A key that has been given a value is no longer looked up. -/
theorem filled_cons (key : PatternKey) (value : String) (values : List (PatternKey × String)) :
    filled ((key, value) :: values) = filled values ∘ give key value := by
  funext piece
  cases piece with
  | literal text => rfl
  | placeholder slot =>
    by_cases hkey : slot.key = key
    · simp [filled, give, hkey]
    · have hne : (slot.key == key) = false := by simpa using hkey
      simp [filled, give, hkey, List.lookup_cons, hne]

/-- Values under the names of their keys. -/
def named (values : List (PatternKey × String)) : List (String × String) :=
  values.map fun entry => (entry.1.name, entry.2)

theorem substitute_named_cons (pattern : String) (key : PatternKey) (value : String)
    (values : List (PatternKey × String)) :
    substitute pattern (named ((key, value) :: values)) =
      substitute (substituteKey pattern key.name value) (named values) := by
  rw [substitute, named, List.map_cons, List.foldl_cons, substitute, named]

/-- Substituting values one after another fills them in. -/
theorem substitute_patternOf {pieces : List PatternPiece} (hpieces : WellFormed pieces)
    {values : List (PatternKey × String)} (hvalues : ∀ entry ∈ values, '%' ∉ entry.2.toList) :
    substitute (patternOf pieces) (named values) = patternOf (pieces.map (filled values)) := by
  -- with each value the pattern is another one, but again well formed
  induction values generalizing pieces with
  | nil =>
    rw [filled_nil, List.map_id]
    rfl
  | cons entry values ih =>
    obtain ⟨key, value⟩ := entry
    have hvalue : '%' ∉ value.toList := hvalues (key, value) List.mem_cons_self
    have hrest : ∀ entry ∈ values, '%' ∉ entry.2.toList := fun entry hentry =>
      hvalues entry (List.mem_cons_of_mem _ hentry)
    calc substitute (patternOf pieces) (named ((key, value) :: values))
        = substitute (substituteKey (patternOf pieces) key.name value) (named values) :=
        substitute_named_cons _ key value values
      _ = substitute (patternOf (pieces.map (give key value))) (named values) := by
        rw [substituteKey_patternOf hpieces key hvalue]
      _ = patternOf (pieces.map (filled ((key, value) :: values))) := by
        rw [ih (hpieces.give key hvalue) hrest, filled_cons, List.map_map]

/-- Where keys are distinct, a value is looked up wherever it stands. -/
theorem lookup_eq_some_iff_mem {values : List (PatternKey × String)}
    (hdistinct : (values.map Prod.fst).Nodup) {key : PatternKey} {value : String} :
    values.lookup key = some value ↔ (key, value) ∈ values := by
  rw [List.lookup_eq_some_iff]
  constructor
  · rintro ⟨first, second, rfl, -⟩
    simp
  · intro hmem
    obtain ⟨first, second, rfl⟩ := List.append_of_mem hmem
    refine ⟨first, second, rfl, fun entry hentry => ?_⟩
    -- an entry before it has another key
    rw [List.map_append, List.nodup_append] at hdistinct
    have hne := hdistinct.2.2 entry.1 (List.mem_map_of_mem hentry) key (by simp)
    simpa using hne.symm

/-- What is filled in does not depend on the order of the values. -/
theorem filled_of_perm {values others : List (PatternKey × String)} (hperm : others.Perm values)
    (hdistinct : (values.map Prod.fst).Nodup) : filled others = filled values := by
  have hothers : (others.map Prod.fst).Nodup := (hperm.map Prod.fst).nodup_iff.mpr hdistinct
  funext piece
  cases piece with
  | literal text => rfl
  | placeholder slot =>
    have hlookup : others.lookup slot.key = values.lookup slot.key := by
      ext value
      rw [lookup_eq_some_iff_mem hothers, lookup_eq_some_iff_mem hdistinct, hperm.mem_iff]
    simp only [filled, hlookup]

/-- Values without percent signs, with distinct keys, are substituted into a well-formed pattern as
if all at once: of each key that has a value, each placeholder is replaced by it, as it is or in
camel case, and other placeholders are left as they are. So the order of the values is of no
account. -/
theorem substitute_fills {pieces : List PatternPiece} (hpieces : WellFormed pieces)
    {values : List (PatternKey × String)} (hvalues : ∀ entry ∈ values, '%' ∉ entry.2.toList)
    (hdistinct : (values.map Prod.fst).Nodup) :
    substitute (patternOf pieces) (named values) = patternOf (pieces.map (filled values)) ∧
      ∀ others : List (PatternKey × String), others.Perm values →
        substitute (patternOf pieces) (named others) =
          substitute (patternOf pieces) (named values) := by
  have hfills := substitute_patternOf hpieces hvalues
  refine ⟨hfills, fun others hperm => ?_⟩
  have hothers : ∀ entry ∈ others, '%' ∉ entry.2.toList := fun entry hentry =>
    hvalues entry (hperm.mem_iff.mp hentry)
  rw [hfills, substitute_patternOf hpieces hothers, filled_of_perm hperm hdistinct]

/-- A directory pattern with a key that has no value, and a value that is the name of a key. -/
def directoryPieces : List PatternPiece :=
  [.literal "app/", .placeholder ⟨.module, false⟩, .literal "-x", .placeholder ⟨.module, true⟩,
    .literal "/action", .placeholder ⟨.action, false⟩, .literal "action"]

/-- A value next to a text that looks like the name of a key, and the two orders of the values. -/
theorem substitute_fills_directory :
    WellFormed directoryPieces ∧
      (∀ entry ∈ [(PatternKey.module, "action"), (.controller, "a-b")], '%' ∉ entry.2.toList) ∧
      ([(PatternKey.module, "action"), (.controller, "a-b")].map Prod.fst).Nodup ∧
      patternOf directoryPieces = "app/%module%-x%Module%/action%action%action" ∧
      substitute (patternOf directoryPieces) [("module", "action"), ("controller", "a-b")] =
        "app/action-xAction/action%action%action" ∧
      substitute (patternOf directoryPieces) [("controller", "a-b"), ("module", "action")] =
        substitute (patternOf directoryPieces) [("module", "action"), ("controller", "a-b")] := by
  have hpieces : WellFormed directoryPieces := by
    refine ⟨?_, ?_⟩
    · simp [directoryPieces]
    · exact ⟨.inl ⟨'-', by decide, by decide⟩, .inl ⟨'/', by decide, by decide⟩, .inr trivial,
        trivial⟩
  have hvalues : ∀ entry ∈ [(PatternKey.module, "action"), (.controller, "a-b")],
      '%' ∉ entry.2.toList := by decide
  have hdistinct : ([(PatternKey.module, "action"), (.controller, "a-b")].map Prod.fst).Nodup := by
    decide
  obtain ⟨hfills, horder⟩ := substitute_fills hpieces hvalues hdistinct
  have hfilled : patternOf (directoryPieces.map
      (filled [(.module, "action"), (.controller, "a-b")])) =
        "app/action-xAction/action%action%action" := by decide +kernel
  exact ⟨hpieces, hvalues, hdistinct, by decide +kernel, hfills.trans hfilled,
    horder _ (List.Perm.swap _ _ [])⟩

end PatternPiece

end RequestDispatch
