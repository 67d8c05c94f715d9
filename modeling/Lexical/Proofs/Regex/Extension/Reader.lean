import Lexical.Proofs.Regex.Extension.Bracket

/-!
# Reading a regular expression in front of another text

The steps of the reader are taken one by one in front of a text that closes a group, and inside the
group (`Reading.within`).  A regular expression that is accepted by itself is then read up to the
parenthesis that closes the group, unless a comment runs over it (`Reading.Accepts.within`).  Inside
of other groups there may be captures already, so a name that is free by itself may be taken; then the
text as a whole is refused, and all statements about runs are about texts that are accepted.
-/

namespace Lexical.Regex

variable {added : List Char} {blanks : Bool} {text rest : List Char}

/-! ## Groups -/

lemma readSwitches_append {on : Bool} {last : Option Char} {seen switches : Switches} {close : Char}
    (h : readSwitches on last seen text = some (switches, close, rest)) :
    readSwitches on last seen (text ++ added) = some (switches, close, rest ++ added) := by
  induction text generalizing on last seen with
  | nil => cases h
  | cons c text ih =>
    simp only [List.cons_append, readSwitches] at h ⊢
    split_ifs at h ⊢
    · obtain ⟨rfl, rfl, rfl⟩ : seen.reverse = switches ∧ c = close ∧ text = rest := by
        simpa using h
      rfl
    · exact ih h
    · cases hflag : flag? c with
      | none => simp [hflag] at h
      | some flag =>
        simp only [hflag] at h ⊢
        split_ifs at h ⊢
        exact ih h

lemma readName_append {name : String} (h : readName text = some (name, rest)) :
    readName (text ++ added) = some (name, rest ++ added) := by
  simp only [readName, drop_length_takeWhile] at h ⊢
  cases hdrop : text.dropWhile (· ≠ '>') with
  | nil =>
    rw [hdrop] at h
    split at h
    · cases ‹[] = _ :: _›
    · cases h
  -- The name ends at its `>`, which is in the text.
  | cons c behind =>
    obtain ⟨hdrop', htake'⟩ := dropWhile_append_cons added hdrop
    rw [hdrop', htake']
    rw [hdrop] at h
    split at h
    · rename_i first others rest' htake heq
      obtain ⟨rfl, rfl⟩ := List.cons.inj heq
      simp only [htake]
      split_ifs at h ⊢
      obtain ⟨rfl, rfl⟩ := Prod.mk.inj (Option.some.inj h)
      rw [htake]
    · cases h

lemma named_append_group {r later : Reading}
    (h : Reading.readGroup.named r text = some (later, rest)) :
    Reading.readGroup.named r (text ++ added) = some (later, rest ++ added) := by
  unfold Reading.readGroup.named at h ⊢
  simp only [Option.bind_eq_bind, Option.bind_eq_some_iff] at h
  obtain ⟨⟨name, behind⟩, hname, h⟩ := h
  simp only [readName_append hname, Option.bind_eq_bind, Option.bind_some]
  split_ifs at h ⊢
  obtain ⟨rfl, rfl⟩ := Prod.mk.inj (Option.some.inj h)
  rfl

/-- Open a group with switches, or take over those that stand by themselves. -/
def Reading.readFlags (r : Reading) (text : List Char) : Option (Reading × List Char) := do
  let (switches, close, rest) ← readSwitches true none [] text
  let blanks := (switches.find? .ignoreSpace).getD r.blanks
  if close = ':' then some (r.openGroup (.switches switches) blanks, rest)
  else if switches.isEmpty then none
  else some ({ r with blanks }.push (.switch switches), rest)

/-- What `Reading.readGroup` reads behind a question mark. -/
def Reading.readQuestion (r : Reading) (text : List Char) : Option (Reading × List Char) :=
  match text with
  | '=' :: _ => none
  | '!' :: _ => none
  | '<' :: '=' :: _ => none
  | '<' :: '!' :: _ => none
  | 'P' :: '<' :: rest => Reading.readGroup.named r rest
  | '<' :: rest => Reading.readGroup.named r rest
  | rest => r.readFlags rest

lemma readGroup_of_question {r : Reading} (h : skipBlanks r.blanks text = '?' :: rest) :
    r.readGroup text = r.readQuestion rest := by
  unfold Reading.readGroup
  rw [h]
  split <;> rename_i heq
  iterate 5
    · obtain ⟨-, rfl⟩ := List.cons.inj heq
      rfl
  · obtain ⟨-, rfl⟩ := List.cons.inj heq
    grind [Reading.readQuestion, Reading.readFlags]
  · obtain ⟨-, rfl⟩ := List.cons.inj heq
    grind [Reading.readQuestion, Reading.readFlags]
  · exact (heq rest rfl).elim

lemma readGroup_of_ne_question {r : Reading}
    (h : ∀ rest, skipBlanks r.blanks text ≠ '?' :: rest) :
    r.readGroup text = some (r.openGroup .capture r.blanks, skipBlanks r.blanks text) := by
  unfold Reading.readGroup
  split
  iterate 7
    · rename_i htext
      exact absurd htext (h _)
  · rfl

lemma readFlags_append {r later : Reading} (h : r.readFlags text = some (later, rest)) :
    r.readFlags (text ++ added) = some (later, rest ++ added) := by
  unfold Reading.readFlags at h ⊢
  simp only [Option.bind_eq_bind, Option.bind_eq_some_iff] at h
  obtain ⟨⟨switches, close, behind⟩, hswitches, h⟩ := h
  simp only [readSwitches_append hswitches, Option.bind_eq_bind, Option.bind_some]
  split_ifs at h ⊢
  · obtain ⟨rfl, rfl⟩ := Prod.mk.inj (Option.some.inj h)
    rfl
  · obtain ⟨rfl, rfl⟩ := Prod.mk.inj (Option.some.inj h)
    rfl

/-- No flag looks like the start of anything else behind a question mark. -/
lemma readQuestion_of_readFlags {r later : Reading} (h : r.readFlags text = some (later, rest)) :
    r.readQuestion text = r.readFlags text := by
  unfold Reading.readQuestion
  split
  iterate 6
    · cases h
  · rfl

lemma readQuestion_of_angle {r : Reading} {c : Char} (h : c ≠ '=') (h' : c ≠ '!') :
    r.readQuestion ('<' :: c :: text) = Reading.readGroup.named r (c :: text) := by
  have hequals (behind : List Char) : c :: text ≠ '=' :: behind :=
    fun heq => h (List.cons.inj heq).1
  have hexclaims (behind : List Char) : c :: text ≠ '!' :: behind :=
    fun heq => h' (List.cons.inj heq).1
  simp only [Reading.readQuestion]

lemma readQuestion_append {r later : Reading} (h : r.readQuestion text = some (later, rest)) :
    r.readQuestion (text ++ added) = some (later, rest ++ added) := by
  unfold Reading.readQuestion at h
  split at h
  iterate 4
    · cases h
  · exact named_append_group h
  -- Behind `<` the text is not empty, as a name has a letter, so the next character is known.
  · rename_i behind hequals hexclaims
    have hnamed : Reading.readGroup.named r (behind ++ added) = some (later, rest ++ added) :=
      named_append_group h
    cases behind with
    | nil => cases h
    | cons c behind =>
      have hc : c ≠ '=' := fun heq => hequals behind (by rw [heq])
      have hc' : c ≠ '!' := fun heq => hexclaims behind (by rw [heq])
      rw [List.cons_append, List.cons_append, readQuestion_of_angle hc hc']
      exact hnamed
  · have hflags : r.readFlags (text ++ added) = some (later, rest ++ added) := readFlags_append h
    rw [readQuestion_of_readFlags hflags, hflags]

lemma readGroup_carries (r : Reading) : Carries r.readGroup := by
  intro text later rest h
  by_cases hquestion : ∃ behind, skipBlanks r.blanks text = '?' :: behind
  · obtain ⟨behind, htext⟩ := hquestion
    left
    intro added _
    rw [readGroup_of_question htext] at h
    rw [readGroup_of_question (skipBlanks_append htext)]
    exact readQuestion_append h
  -- Without a question mark the group is a capture, and what matters is what comes first behind
  -- the blanks.
  · have hne (behind : List Char) : skipBlanks r.blanks text ≠ '?' :: behind :=
      fun heq => hquestion ⟨behind, heq⟩
    rw [readGroup_of_ne_question hne] at h
    obtain ⟨rfl, rfl⟩ := Prod.mk.inj (Option.some.inj h)
    cases htext : skipBlanks r.blanks text with
    | cons c behind =>
      left
      intro added _
      have htext' : skipBlanks r.blanks (text ++ added) = c :: (behind ++ added) :=
        skipBlanks_append htext
      rw [readGroup_of_ne_question fun others heq => ?_, htext']
      · rfl
      · rw [htext'] at heq
        exact hne behind (by rw [htext, (List.cons.inj heq).1])
    -- The group is opened at the end of the text, and maybe in a comment.
    | nil =>
      rcases skipBlanks_append_of_nil htext with hsame | hends
      · left
        intro added hadded
        have hsame := hsame added hadded
        obtain ⟨more, rfl⟩ := hadded.exists_cons
        rw [readGroup_of_ne_question fun others heq => ?_, hsame]
        · rfl
        · rw [hsame] at heq
          cases heq
      · refine .inr ⟨rfl, fun added _ hnewline => ?_⟩
        have hends := hends added hnewline
        rw [readGroup_of_ne_question fun others heq => ?_, hends]
        rw [hends] at heq
        cases heq

/-! ## Repetitions -/

lemma readCount_append {count : Option Nat} {c : Char}
    (h : readCount blanks text = some (count, c :: rest)) :
    readCount blanks (text ++ added) = some (count, c :: (rest ++ added)) := by
  unfold readCount at h ⊢
  cases hdrop : text.dropWhile isBlank with
  | nil => simp [hdrop, takeWhileSignificant] at h
  | cons d behind =>
    rw [(dropWhile_append_cons added hdrop).1]
    rw [hdrop] at h
    cases htaken : takeWhileSignificant blanks Char.isDigit false (d :: behind) with
    | mk digits behind' =>
    simp only [htaken] at h
    have hrest : behind'.dropWhile isBlank = c :: rest := by
      split_ifs at h
      · exact (Prod.mk.inj (Option.some.inj h)).2
      · exact (Prod.mk.inj (Option.some.inj h)).2
    cases behind' with
    | nil => cases hrest
    | cons e behind' =>
      have hdropped := (dropWhile_append_cons added hrest).1
      rw [List.cons_append] at hdropped
      rw [← List.cons_append, takeWhileSignificant_append htaken]
      simp only [hdropped]
      split_ifs at h ⊢
      · obtain ⟨rfl, -⟩ := Prod.mk.inj (Option.some.inj h)
        rfl
      · obtain ⟨rfl, -⟩ := Prod.mk.inj (Option.some.inj h)
        rfl

lemma readCount_nil : readCount blanks [] = some (none, []) := by
  simp [readCount, takeWhileSignificant]

lemma readBounds_append {min : Nat} {max : Option Nat}
    (h : readBounds blanks text = some (min, max, rest)) :
    readBounds blanks (text ++ added) = some (min, max, rest ++ added) := by
  unfold readBounds at h ⊢
  simp only [Option.bind_eq_bind, Option.bind_eq_some_iff] at h
  obtain ⟨⟨count, behind⟩, hcount, least, hleast, h⟩ := h
  dsimp only at hleast h
  subst hleast
  cases htext : skipBlanks blanks text with
  | nil =>
    rw [htext, readCount_nil] at hcount
    cases hcount
  | cons c after =>
  rw [htext] at hcount
  rw [skipBlanks_append htext, ← List.cons_append]
  cases behind with
  | nil => cases h
  | cons d behind =>
    simp only [readCount_append hcount, Option.bind_eq_bind, Option.bind_some]
    split at h
    · rename_i heq
      obtain ⟨rfl, rfl⟩ := List.cons.inj heq
      obtain ⟨rfl, rfl, rfl⟩ : least = min ∧ some least = max ∧ behind = rest := by
        simpa using h
      rfl
    · rename_i heq
      obtain ⟨rfl, rfl⟩ := List.cons.inj heq
      -- Behind a comma there may be a second count, or the brace closes at once.
      cases hbehind : skipBlanks blanks behind with
      | nil => simp [hbehind, readCount_nil] at h
      | cons d after' =>
        simp only [skipBlanks_append hbehind]
        simp only [hbehind] at h
        split at h
        · rename_i heq
          obtain ⟨rfl, rfl⟩ := List.cons.inj heq
          obtain ⟨rfl, rfl, rfl⟩ : least = min ∧ none = max ∧ after' = rest := by simpa using h
          rfl
        · rename_i hbrace
          simp only [Option.bind_eq_some_iff] at h
          obtain ⟨⟨count, behind'⟩, hcount', most, hmost, h⟩ := h
          dsimp only at hmost h
          subst hmost
          split at h
          · rename_i rest'
            have hd : ∀ others, d :: (after' ++ added) ≠ '}' :: others :=
              fun others heq => hbrace after' (by rw [(List.cons.inj heq).1])
            have hcounted : readCount blanks (d :: (after' ++ added)) =
                some (some most, '}' :: (rest' ++ added)) := readCount_append hcount'
            split_ifs at h with hle
            obtain ⟨rfl, rfl, rfl⟩ : least = min ∧ some most = max ∧ rest' = rest := by
              simpa using h
            simp only [hcounted, Option.bind_some, if_pos hle]
          · cases h
    · cases h

lemma readRepetition_append (hadded : ClosesGroup added) {r later : Reading} {min : Nat}
    {max : Option Nat} (h : r.readRepetition min max text = some (later, rest)) :
    r.readRepetition min max (text ++ added) = some (later, rest ++ added) := by
  unfold Reading.readRepetition at h
  split at h
  · obtain ⟨later, hlater, heq⟩ := Option.map_eq_some_iff.1 h
    obtain ⟨rfl, rfl⟩ := Prod.mk.inj heq
    simp only [List.cons_append, Reading.readRepetition, hlater, Option.map_some]
  · rename_i hquestion
    obtain ⟨later, hlater, heq⟩ := Option.map_eq_some_iff.1 h
    obtain ⟨rfl, rfl⟩ := Prod.mk.inj heq
    -- The parenthesis does not make the repetition a lazy one.
    have hne (others : List Char) : text ++ added ≠ '?' :: others := by
      intro heq
      cases text with
      | nil =>
        unfold ClosesGroup at hadded
        rw [List.nil_append] at heq
        rw [heq] at hadded
        cases hadded
      | cons c behind =>
        exact hquestion behind (by rw [(List.cons.inj heq).1])
    simp only [Reading.readRepetition, hlater, Option.map_some]

/-! ## Steps -/

namespace Reading

variable {r later : Reading}

lemma step_carries (r : Reading) (c : Char) : Carries (r.step c) := by
  intro text later rest h
  unfold step at h
  split at h
  · exact readGroup_carries r h
  · left
    intro added _
    obtain ⟨closed, hclosed, heq⟩ := Option.map_eq_some_iff.1 h
    obtain ⟨rfl, rfl⟩ := Prod.mk.inj heq
    simp only [step, hclosed, Option.map_some]
  · obtain ⟨rfl, rfl⟩ := Prod.mk.inj (Option.some.inj h)
    exact .inl fun _ _ => rfl
  · left
    intro added hadded
    obtain ⟨⟨set, behind⟩, hset, heq⟩ := Option.map_eq_some_iff.1 h
    obtain ⟨rfl, rfl⟩ := Prod.mk.inj heq
    simp only [step, readBracket_append hadded hset, Option.map_some]
  iterate 3
    · exact .inl fun _ hadded => readRepetition_append hadded h
  · simp only [Option.bind_eq_bind, Option.bind_eq_some_iff] at h
    obtain ⟨⟨min, max, behind⟩, hbounds, h⟩ := h
    dsimp only at h
    -- The bounds end at their brace. Only the blanks behind them can be the last of the text.
    have hstep (added : List Char) : r.step '{' (text ++ added) =
        r.readRepetition min max (skipBlanks r.blanks (behind ++ added)) := by
      simp only [step, readBounds_append hbounds, Option.bind_eq_bind, Option.bind_some]
    cases hskip : skipBlanks r.blanks behind with
    | cons c after =>
      left
      intro added hadded
      rw [hskip] at h
      rw [hstep, skipBlanks_append hskip, ← List.cons_append]
      exact readRepetition_append hadded h
    | nil =>
      rw [hskip] at h
      rcases skipBlanks_append_of_nil hskip with hsame | hends
      · left
        intro added hadded
        have hrepetition := readRepetition_append hadded h
        rw [List.nil_append] at hrepetition
        rw [hstep, hsame added hadded]
        exact hrepetition
      · have hnil : rest = [] := by
          obtain ⟨repeated, -, heq⟩ := Option.map_eq_some_iff.1 h
          exact (Prod.mk.inj heq).2.symm
        refine .inr ⟨hnil, fun added _ hnewline => ?_⟩
        rw [hstep, hends added hnewline]
        exact hnil ▸ h
  · exact (readEscape_carries r.blanks).map (fun escape => r.push escape.term) h
  iterate 3
    · obtain ⟨rfl, rfl⟩ := Prod.mk.inj (Option.some.inj h)
      exact .inl fun _ _ => rfl
  · obtain ⟨rfl, rfl⟩ := Prod.mk.inj (Option.some.inj h)
    left
    intro added _
    simp only [step]

/-- The reader inside further groups, where names have been given already. -/
def within (r : Reading) (outer : List OpenGroup) (taken : List String) : Reading :=
  { r with groups := r.groups ++ outer, names := r.names ++ taken }

@[simp] lemma within_blanks (r : Reading) (outer : List OpenGroup) (taken : List String) :
    (r.within outer taken).blanks = r.blanks := rfl

section Within

variable {outer : List OpenGroup} {taken : List String} {b : Configuration}

/-- A name that is free by itself may be taken. -/
lemma named_within (h : readGroup.named r text = some (later, rest))
    (hb : readGroup.named (r.within outer taken) text = some b) :
    b = (later.within outer taken, rest) := by
  unfold readGroup.named at h hb
  simp only [Option.bind_eq_bind, Option.bind_eq_some_iff] at h hb
  obtain ⟨⟨name, behind⟩, hname, h⟩ := h
  obtain ⟨⟨name', behind'⟩, hname', hb⟩ := hb
  obtain ⟨rfl, rfl⟩ := Prod.mk.inj (Option.some.inj (hname.symm.trans hname'))
  split_ifs at h hb
  obtain ⟨rfl, rfl⟩ := Prod.mk.inj (Option.some.inj h)
  exact (Option.some.inj hb).symm

lemma readFlags_within (r : Reading) (text : List Char) :
    (r.within outer taken).readFlags text =
      (r.readFlags text).map fun (r, rest) => (r.within outer taken, rest) := by
  unfold readFlags
  cases readSwitches true none [] text with
  | none => rfl
  | some read =>
    simp only [Option.bind_eq_bind, Option.bind_some, within_blanks]
    split_ifs <;> rfl

/-- What is done inside is done by itself, too. -/
lemma eq_within_of_map {read : Option (Reading × List Char)} (h : read = some (later, rest))
    (hb : (read.map fun (r, rest) => (r.within outer taken, rest)) = some b) :
    b = (later.within outer taken, rest) := by
  rw [h] at hb
  exact (Option.some.inj hb).symm

lemma readQuestion_within (h : r.readQuestion text = some (later, rest))
    (hb : (r.within outer taken).readQuestion text = some b) :
    b = (later.within outer taken, rest) := by
  unfold readQuestion at h
  split at h
  iterate 4
    · cases h
  · exact named_within h hb
  · rename_i behind hequals hexclaims
    cases behind with
    | nil => cases h
    | cons c behind =>
      -- A name comes next, so that neither text is one of the lookbehinds that are refused.
      have hc : c ≠ '=' := fun heq => hequals behind (by rw [heq])
      have hc' : c ≠ '!' := fun heq => hexclaims behind (by rw [heq])
      rw [readQuestion_of_angle hc hc'] at hb
      exact named_within h hb
  · have hread : (r.within outer taken).readFlags text =
        some (later.within outer taken, rest) := by
      rw [readFlags_within, h]
      rfl
    rw [readQuestion_of_readFlags hread, hread] at hb
    exact (Option.some.inj hb).symm

lemma readGroup_within (h : r.readGroup text = some (later, rest))
    (hb : (r.within outer taken).readGroup text = some b) :
    b = (later.within outer taken, rest) := by
  by_cases hquestion : ∃ behind, skipBlanks r.blanks text = '?' :: behind
  · obtain ⟨behind, htext⟩ := hquestion
    have htext' : skipBlanks (r.within outer taken).blanks text = '?' :: behind := htext
    rw [readGroup_of_question htext] at h
    rw [readGroup_of_question htext'] at hb
    exact readQuestion_within h hb
  · have hne (behind : List Char) : skipBlanks r.blanks text ≠ '?' :: behind :=
      fun heq => hquestion ⟨behind, heq⟩
    have hne' (behind : List Char) :
        skipBlanks (r.within outer taken).blanks text ≠ '?' :: behind := hne behind
    rw [readGroup_of_ne_question hne] at h
    rw [readGroup_of_ne_question hne'] at hb
    obtain ⟨rfl, rfl⟩ := Prod.mk.inj (Option.some.inj h)
    exact (Option.some.inj hb).symm

lemma closeGroup?_within (h : r.closeGroup? = some later) :
    (r.within outer taken).closeGroup? = some (later.within outer taken) := by
  unfold closeGroup? at h
  cases hgroups : r.groups with
  | nil => simp [hgroups] at h
  | cons group groups =>
    simp only [hgroups, Option.some.injEq] at h
    simp only [closeGroup?, within, hgroups, List.cons_append, ← h]

lemma repeatLast?_within {min : Nat} {max : Option Nat} {greedy : Bool} (r : Reading) :
    (r.within outer taken).repeatLast? min max greedy =
      (r.repeatLast? min max greedy).map (within · outer taken) := by
  unfold repeatLast? within
  dsimp only
  split <;> rfl

lemma readRepetition_within {min : Nat} {max : Option Nat} (r : Reading) (text : List Char) :
    (r.within outer taken).readRepetition min max text =
      (r.readRepetition min max text).map fun (r, rest) => (r.within outer taken, rest) := by
  unfold readRepetition
  split <;> simp only [repeatLast?_within, Option.map_map] <;> rfl

/-- What is open around a text makes no difference to a step inside it, unless it is refused. -/
lemma step_within {c : Char} (h : r.step c text = some (later, rest))
    (hb : (r.within outer taken).step c text = some b) : b = (later.within outer taken, rest) := by
  unfold step at h
  split at h
  -- Each step reads the text alone and changes the innermost group, but for the names, which a
  -- group checks against those taken.
  · exact readGroup_within h hb
  · obtain ⟨closed, hclosed, heq⟩ := Option.map_eq_some_iff.1 h
    obtain ⟨rfl, rfl⟩ := Prod.mk.inj heq
    simp only [step, closeGroup?_within hclosed, Option.map_some, Option.some.injEq] at hb
    exact hb.symm
  · obtain ⟨rfl, rfl⟩ := Prod.mk.inj (Option.some.inj h)
    exact (Option.some.inj hb).symm
  · obtain ⟨⟨set, behind⟩, hset, heq⟩ := Option.map_eq_some_iff.1 h
    obtain ⟨rfl, rfl⟩ := Prod.mk.inj heq
    simp only [step, within_blanks, hset, Option.map_some, Option.some.injEq] at hb
    exact hb.symm
  iterate 3
    · simp only [step, readRepetition_within] at hb
      exact eq_within_of_map h hb
  · simp only [Option.bind_eq_bind, Option.bind_eq_some_iff] at h
    obtain ⟨⟨min, max, behind⟩, hbounds, h⟩ := h
    dsimp only at h
    simp only [step, within_blanks, hbounds, Option.bind_eq_bind, Option.bind_some,
      readRepetition_within] at hb
    exact eq_within_of_map h hb
  · obtain ⟨⟨escape, behind⟩, hescape, heq⟩ := Option.map_eq_some_iff.1 h
    obtain ⟨rfl, rfl⟩ := Prod.mk.inj heq
    simp only [step, within_blanks, hescape, Option.map_some, Option.some.injEq] at hb
    exact hb.symm
  iterate 3
    · obtain ⟨rfl, rfl⟩ := Prod.mk.inj (Option.some.inj h)
      exact (Option.some.inj hb).symm
  · obtain ⟨rfl, rfl⟩ := Prod.mk.inj (Option.some.inj h)
    simp only [step, Option.some.injEq] at hb
    exact hb.symm

end Within

/-! ## Runs -/

/-- What is accepted with something left of it is accepted behind its next step. -/
lemma Accepts.exists_next {a c : Configuration} (h : Accepts a c) (hleft : ¬ AtEnd a) :
    ∃ b, Next a b ∧ Accepts b c := by
  rcases h.steps.cases_head with rfl | ⟨b, hnext, hsteps⟩
  · exact absurd h.atEnd hleft
  · exact ⟨b, hnext, hsteps, h.atEnd, h.groups_eq⟩

/-- What is accepted in front of a text that closes a group is accepted behind each step that is
taken by itself; but a comment behind the step may run on. -/
lemma next_within (h : Next (r, text) (later, rest)) :
    (∀ added, ClosesGroup added → ∀ outer taken c,
        Accepts (r.within outer taken, text ++ added) c →
          Accepts (later.within outer taken, rest ++ added) c) ∨
      rest = [] ∧ ∀ added, ClosesGroup added → '\n' ∉ added → ∀ outer taken c,
        Accepts (r.within outer taken, text ++ added) c →
          Accepts (later.within outer taken, []) c := by
  obtain ⟨d, behind, htext, hstep⟩ := h
  have hskip (added : List Char) :
      skipBlanks r.blanks (text ++ added) = d :: (behind ++ added) :=
    skipBlanks_append htext
  -- Steps are determined, so what is accepted from the first text goes through this step.
  have hthrough {added : List Char} {outer : List OpenGroup} {taken : List String}
      {c : Configuration} {rest' : List Char}
      (hstep' : r.step d (behind ++ added) = some (later, rest'))
      (hall : Accepts (r.within outer taken, text ++ added) c) :
      Accepts (later.within outer taken, rest') c := by
    have hleft : ¬ AtEnd (r.within outer taken, text ++ added) := by
      intro hend
      have hnil : skipBlanks r.blanks (text ++ added) = [] := hend
      rw [hskip] at hnil
      cases hnil
    obtain ⟨b, ⟨e, others, htext', hb⟩, haccepts⟩ := hall.exists_next hleft
    have htext'' : skipBlanks r.blanks (text ++ added) = e :: others := htext'
    obtain ⟨rfl, rfl⟩ := List.cons.inj ((hskip added).symm.trans htext'')
    rw [step_within hstep' hb] at haccepts
    exact haccepts
  rcases step_carries r d hstep with hsame | ⟨hnil, hends⟩
  · left
    intro added hadded outer taken c hall
    exact hthrough (hsame added hadded) hall
  · refine .inr ⟨hnil, fun added hadded hnewline outer taken c hall => ?_⟩
    exact hthrough (hends added hadded hnewline) hall

/-- The induction is on the steps; behind a comment that has run on no step is left to be taken. -/
lemma steps_within {b : Configuration} (h : Steps (r, text) b) :
    (∀ added, ClosesGroup added → ∀ outer taken c,
        Accepts (r.within outer taken, text ++ added) c →
          Accepts (b.1.within outer taken, b.2 ++ added) c) ∨
      b.2 = [] ∧ ∀ added, ClosesGroup added → '\n' ∉ added → ∀ outer taken c,
        Accepts (r.within outer taken, text ++ added) c →
          Accepts (b.1.within outer taken, []) c := by
  induction h with
  | refl => exact .inl fun _ _ _ _ _ hall => hall
  | @tail a b _ hnext ih =>
    rcases ih with hsteps | ⟨hnil, -⟩
    · rcases next_within hnext with hone | ⟨hnil, hone⟩
      · left
        intro added hadded outer taken c hall
        exact hone added hadded outer taken c (hsteps added hadded outer taken c hall)
      · refine .inr ⟨hnil, fun added hadded hnewline outer taken c hall => ?_⟩
        exact hone added hadded hnewline outer taken c (hsteps added hadded outer taken c hall)
    -- A comment has run over the rest before, and behind it there is no further step.
    · have hend : AtEnd a := by
        obtain ⟨r, text⟩ := a
        obtain rfl : text = [] := hnil
        exact atEnd_nil r
      exact absurd hnext hend.not_next

/-- Inside of other groups nothing is accepted that leaves them open. -/
lemma not_accepts_within {outer : List OpenGroup} {taken : List String} {c : Configuration}
    (houter : outer ≠ []) (hend : AtEnd (r.within outer taken, text)) :
    ¬ Accepts (r.within outer taken, text) c := by
  intro haccepts
  obtain rfl := haccepts.eq_of_atEnd hend
  have hgroups := haccepts.groups_eq
  exact houter (List.append_eq_nil_iff.1 hgroups).2

/-- **A text that is accepted by itself is read in front of another one**, inside of other groups,
up to where the other one begins.  Only a comment at its end may run over the other one, and then
nothing is accepted that has it on one line. -/
theorem Accepts.within {b : Configuration} (h : Accepts (r, text) b) :
    (∀ added, ClosesGroup added → ∀ outer taken c,
        Accepts (r.within outer taken, text ++ added) c →
          ∃ rest, skipBlanks b.1.blanks rest = added ∧
            Accepts (b.1.within outer taken, rest) c) ∨
      ∀ added, ClosesGroup added → '\n' ∉ added → ∀ outer taken c, outer ≠ [] →
        ¬ Accepts (r.within outer taken, text ++ added) c := by
  rcases steps_within h.steps with hsteps | ⟨hnil, hends⟩
  · rcases skipBlanks_append_of_nil h.atEnd with hsame | hnothing
    · left
      intro added hadded outer taken c hall
      exact ⟨b.2 ++ added, hsame added hadded, hsteps added hadded outer taken c hall⟩
    -- The text is read to its end, but a comment that stands there hides the parenthesis.
    · right
      intro added hadded hnewline outer taken c houter hall
      have hbehind := hsteps added hadded outer taken c hall
      exact not_accepts_within houter (hnothing added hnewline) hbehind
  -- The last step has run into a comment, and the groups around stay open.
  · right
    intro added hadded hnewline outer taken c houter hall
    have hbehind := hends added hadded hnewline outer taken c hall
    exact not_accepts_within houter (atEnd_nil _) hbehind

end Reading

end Lexical.Regex
