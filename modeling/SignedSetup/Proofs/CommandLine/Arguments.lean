import SignedSetup.CommandLine.Command
import SignedSetup.Proofs.Results

/-!
# What is taken of arguments

The first argument names the command and all that follow are the command's own (`parse_cons`): an
option among them is none of the program's, and help alone is never ambiguous. Of an option's values
the last one holds (`lookup_options_takeArguments`), wherever the option stands between the
positional arguments: these are taken in groups that end before the next option.
-/

namespace SignedSetup.CommandLine

/-! ## Tokens -/

section Tokens

variable {flags : List Flag} {argument : Text} {arguments : List Text}

/-- What does not begin with a minus sign is a positional argument. -/
theorem classify_of_head?_ne (h : argument.head? ≠ some (CodePoint.ofChar '-')) :
    classify flags argument = .ok (.positional argument) := by
  unfold classify
  exact if_pos h

theorem tokens_cons_of_head?_ne (h : argument.head? ≠ some (CodePoint.ofChar '-')) :
    tokens flags (argument :: arguments) =
      (tokens flags arguments).map (.positional argument :: ·) := by
  have hne : argument ≠ "--" := by
    rintro rfl
    exact h rfl
  rw [tokens, if_neg hne, classify_of_head?_ne h, ok_bind]
  cases tokens flags arguments <;> rfl

theorem argument_of_mem_abbreviations {spelling : Text} {found : Found}
    (h : (spelling, found) ∈ abbreviations flags argument) : found.argument = argument := by
  unfold abbreviations at h
  dsimp only at h
  split at h
  · split at h
    · obtain ⟨_, -, heq⟩ := List.mem_map.1 h
      rw [← (Prod.mk.inj heq).2]
    · rcases List.mem_append.1 h with h | h
      · obtain ⟨_, -, heq⟩ := List.mem_map.1 h
        rw [← (Prod.mk.inj heq).2]
      · obtain ⟨_, -, heq⟩ := List.mem_map.1 h
        rw [← (Prod.mk.inj heq).2]
  · cases h

theorem argument_of_classifyOther {t : Token} (h : classifyOther flags argument = .ok t) :
    t.argument = argument := by
  unfold classifyOther at h
  split at h
  · next hfound =>
    obtain rfl := Except.ok.inj h
    exact argument_of_mem_abbreviations (hfound ▸ List.mem_singleton_self _)
  · split at h
    · exact Except.ok.inj h ▸ rfl
    · exact Except.ok.inj h ▸ rfl
  · cases h

theorem argument_of_classify {t : Token} (h : classify flags argument = .ok t) :
    t.argument = argument := by
  unfold classify at h
  dsimp only at h
  split at h
  · exact Except.ok.inj h ▸ rfl
  · split at h
    · next hexact =>
      obtain ⟨_, -, rfl⟩ := Option.map_eq_some_iff.1 hexact
      exact Except.ok.inj h ▸ rfl
    · split at h
      · exact Except.ok.inj h ▸ rfl
      · split at h
        · next hexact =>
          obtain ⟨_, -, hexact⟩ := Option.bind_eq_some_iff.1 hexact
          obtain ⟨_, -, rfl⟩ := Option.map_eq_some_iff.1 hexact
          exact Except.ok.inj h ▸ rfl
        · exact argument_of_classifyOther h

/-- The tokens are the arguments, each with what it is understood as. -/
theorem map_argument_tokens {ts : List Token} (h : tokens flags arguments = .ok ts) :
    ts.map Token.argument = arguments := by
  induction arguments generalizing ts with
  | nil => exact Except.ok.inj h ▸ rfl
  | cons argument arguments ih =>
    rw [tokens] at h
    split at h
    · next hseparator =>
      obtain rfl := Except.ok.inj h
      rw [List.map_cons, List.map_map, hseparator]
      exact congrArg _ (List.map_id _)
    · obtain ⟨t, ht, h⟩ := bind_eq_ok h
      obtain ⟨rest, hrest, h⟩ := bind_eq_ok h
      obtain rfl := Except.ok.inj h
      rw [List.map_cons, argument_of_classify ht, ih hrest]

end Tokens

/-! ## Help alone is not ambiguous -/

theorem candidates_help (p : Text → Bool) :
    candidates [.help] p =
      ((if p "-h" then [Text.ofString "-h"] else []) ++
        (if p "--help" then [Text.ofString "--help"] else [])).map (Flag.help, ·) := by
  show ((["-h", "--help"] : List Text).filter p).map _ ++ [] = _
  rw [List.append_nil, List.filter_cons, List.filter_cons, List.filter_nil]
  cases p "-h" <;> cases p "--help" <;> rfl

theorem fst_splitValue (argument : Text) :
    (splitValue argument).1 = argument.takeWhile (· ≠ CodePoint.ofChar '=') := by
  unfold splitValue
  dsimp only
  split <;> rfl

/-- An argument that is not the short spelling of help stands for help in one way at most. -/
theorem length_abbreviations_help {argument : Text}
    (hhead : argument.head? = some (CodePoint.ofChar '-')) (hne : argument ≠ "-h") :
    (abbreviations [.help] argument).length ≤ 1 := by
  match argument, hhead with
  | [c], _ => exact Nat.zero_le _
  | c :: second :: rest, hhead =>
    obtain rfl : c = CodePoint.ofChar '-' := Option.some.inj hhead
    unfold abbreviations
    dsimp only
    split
    · next hsecond =>
      -- The word begins with two dashes, so the short spelling is no candidate.
      have hshort : List.isPrefixOf (splitValue (CodePoint.ofChar '-' :: second :: rest)).1 "-h" =
          false := by
        rw [fst_splitValue, hsecond]
        rfl
      rw [List.length_map, candidates_help, hshort]
      cases List.isPrefixOf (splitValue (CodePoint.ofChar '-' :: second :: rest)).1 "--help"
      · exact Nat.zero_le _
      · exact Nat.le_refl _
    · next hsecond =>
      -- The argument is too long to begin the short spelling, and none begins the long one.
      have hshort : List.isPrefixOf (CodePoint.ofChar '-' :: second :: rest) "-h" = false := by
        refine Bool.eq_false_iff.2 fun hprefix => hne ?_
        exact (List.isPrefixOf_iff_prefix.1 hprefix).eq_of_length_le (Nat.le_add_left 2 _)
      have hlong : List.isPrefixOf (CodePoint.ofChar '-' :: second :: rest) "--help" = false := by
        refine Bool.eq_false_iff.2 fun hprefix => hsecond ?_
        exact (List.cons_prefix_cons.1
          (List.cons_prefix_cons.1 (List.isPrefixOf_iff_prefix.1 hprefix)).2).1
      have hexact : decide (Text.ofString "--help" =
          List.take 2 (CodePoint.ofChar '-' :: second :: rest)) = false :=
        decide_eq_false fun h => absurd (congrArg List.length h) (by simp [Text.ofString])
      rw [candidates_help, candidates_help, hshort, hlong, hexact, List.length_append,
        List.length_map, List.length_map, List.length_map, List.length_map]
      split
      · exact Nat.le_refl _
      · exact Nat.zero_le _

/-- The program understands all arguments in some way. -/
theorem exists_tokens_help (arguments : List Text) : ∃ ts, tokens [.help] arguments = .ok ts := by
  have hclassify (argument : Text) : ∃ t, classify [.help] argument = .ok t := by
    unfold classify
    dsimp only
    split
    · exact ⟨_, rfl⟩
    · next hhead =>
      split
      · exact ⟨_, rfl⟩
      · next hexact =>
        have hne : argument ≠ "-h" := by
          rintro rfl
          cases hexact
        have hle := length_abbreviations_help (not_not.1 hhead) hne
        split
        · exact ⟨_, rfl⟩
        · split
          · exact ⟨_, rfl⟩
          · unfold classifyOther
            split
            · exact ⟨_, rfl⟩
            · split <;> exact ⟨_, rfl⟩
            · next hsingle hnone =>
              match habbreviations : abbreviations [.help] argument, hle with
              | [], _ => exact absurd habbreviations hnone
              | [(_, found)], _ => exact absurd habbreviations (hsingle _ found)
  induction arguments with
  | nil => exact ⟨[], rfl⟩
  | cons argument arguments ih =>
    obtain ⟨ts, hts⟩ := ih
    rw [tokens]
    split
    · exact ⟨_, rfl⟩
    · obtain ⟨t, ht⟩ := hclassify argument
      exact ⟨t :: ts, by rw [ht, hts]; rfl⟩

/-! ## The turns of taking -/

section Turns

variable {fuel : Nat} {wanted still : List Wanted} {ts rest : List Token} {taken : Taken}
  {found : List (Text × List Text)}

/-- An option is taken with its value. -/
theorem take_option (fuel : Nat) (wanted : List Wanted) (option : Found) (ts : List Token)
    (taken : Taken) :
    take (fuel + 1) wanted (.option option :: ts) taken =
      takeOption option ts taken >>= fun (taken, rest) => take fuel wanted rest taken := by
  rw [take]
  exact if_pos rfl

/-- Where no option is left, all is taken: as positional arguments or else as extras. -/
theorem take_last (hnone : ts.any Token.isOption = false)
    (hall : takeAllWanted wanted ts = (found, still, rest)) :
    take (fuel + 1) wanted ts taken =
      .ok ({ taken with
        positionals := taken.positionals ++ found
        extras := taken.extras ++ rest.map Token.argument }, still) := by
  rw [take, hall]
  exact if_neg (by rw [hnone]; exact Bool.false_ne_true)

/-- Before an option, a group of positional arguments is taken. -/
theorem take_group (hany : ts.any Token.isOption = true)
    (hhead : ∀ option ts', ts ≠ .option option :: ts')
    (hall : takeAllWanted wanted ts = (found, still, rest)) (hfound : found ≠ []) :
    take (fuel + 1) wanted ts taken =
      take fuel still rest { taken with positionals := taken.positionals ++ found } := by
  rw [take, hall]
  dsimp only
  rw [if_pos hany]
  split
  · exact absurd rfl (hhead _ _)
  · exact if_pos (by simpa using hfound)

/-- Before an option, what is not wanted is set aside. -/
theorem take_strays (hany : ts.any Token.isOption = true)
    (hhead : ∀ option ts', ts ≠ .option option :: ts')
    (hall : takeAllWanted wanted ts = ([], still, rest)) :
    take (fuel + 1) wanted ts taken =
      take fuel wanted (ts.drop (ts.takeWhile fun t => !t.isOption).length)
        { taken with
          extras := taken.extras ++ (ts.takeWhile fun t => !t.isOption).map Token.argument } := by
  rw [take, hall]
  dsimp only
  rw [if_pos hany]
  split
  · exact absurd rfl (hhead _ _)
  · exact if_neg Bool.false_ne_true

end Turns

/-- The first argument that does not begin with a minus sign takes all that follow with it. -/
theorem takeArguments_rest {name first : Text} {arguments : List Text}
    (h : first.head? ≠ some (CodePoint.ofChar '-')) :
    takeArguments [.help] [.rest name] (first :: arguments) =
      .ok ⟨[(name, first :: arguments)], [], []⟩ := by
  obtain ⟨ts, hts⟩ := exists_tokens_help arguments
  have htokens : tokens [.help] (first :: arguments) = .ok (.positional first :: ts) := by
    rw [tokens_cons_of_head?_ne h, hts]
    rfl
  have hall : takeAllWanted [.rest name] (.positional first :: ts) =
      ([(name, first :: arguments)], [], []) := by
    rw [← map_argument_tokens hts]
    rfl
  have htake (fuel : Nat) : take (fuel + 2) [.rest name] (.positional first :: ts) ⟨[], [], []⟩ =
      .ok (⟨[(name, first :: arguments)], [], []⟩, []) := by
    cases hany : (Token.positional first :: ts).any Token.isOption with
    | false => exact take_last hany hall
    | true => exact (take_group hany nofun hall (List.cons_ne_nil _ _)).trans (take_last rfl rfl)
  rw [takeArguments, htokens, ok_bind]
  show (take (2 * ts.length + 1 + 2) _ _ _ >>= _) = _
  rw [htake]
  rfl

/-- The first argument names the command, and the others are the command's. -/
theorem parse_cons {name : Text} {arguments : List Text}
    (h : name.head? ≠ some (CodePoint.ofChar '-')) :
    parse (name :: arguments) =
      takeCommand name arguments >>= fun (command, extras) =>
        if extras.isEmpty then .ok command
        else complain ("unrecognized arguments: " ++ Text.join " " extras) := by
  rw [parse, takeArguments_rest h]
  rfl

/-! ## The values of an option -/

/-- The values that arguments give an option, in their order. -/
def optionValues (name : Text) : List Token → List Text
  | [] => []
  | .option ⟨_, some (.valued n), _, some value⟩ :: ts =>
    if n = name then value :: optionValues name ts else optionValues name ts
  | .option ⟨_, some (.valued n), _, none⟩ :: .positional value :: ts =>
    if n = name then value :: optionValues name ts else optionValues name ts
  | _ :: ts => optionValues name ts

/-- What is no option gives none a value. -/
theorem optionValues_append (name : Text) {before : List Token}
    (h : ∀ t ∈ before, t.isOption = false) (ts : List Token) :
    optionValues name (before ++ ts) = optionValues name ts := by
  induction before with
  | nil => rfl
  | cons t before ih =>
    have ih := ih fun t ht => h t (List.mem_cons_of_mem _ ht)
    cases t with
    | option found => exact nomatch h _ List.mem_cons_self
    | separator => exact ih
    | positional argument => exact ih

/-- An option that is taken is not understood, or has its value in its own argument or in the next
one. -/
theorem takeOption_cases {option : Found} {ts rest : List Token} {taken taken' : Taken}
    (h : takeOption option ts taken = .ok (taken', rest)) :
    (option.flag = none ∧ rest = ts ∧
        taken' = { taken with extras := taken.extras ++ [option.argument] }) ∨
      ∃ name value, option.flag = some (.valued name) ∧
        (option.value = some value ∧ rest = ts ∨
          option.value = none ∧ ts = .positional value :: rest) ∧
        taken' = { taken with options := (name, withoutSeparator [value]) :: taken.options } := by
  obtain ⟨argument, flag, short, value⟩ := option
  match flag, value with
  | none, value =>
    obtain ⟨rfl, rfl⟩ := Prod.mk.inj (Except.ok.inj h)
    exact .inl ⟨rfl, rfl, rfl⟩
  | some .help, none => cases h
  | some .help, some value =>
    simp only [takeOption] at h
    split at h
    · split at h <;> cases h
    · cases h
  | some (.valued name), some value =>
    obtain ⟨rfl, rfl⟩ := Prod.mk.inj (Except.ok.inj h)
    exact .inr ⟨name, value, rfl, .inl ⟨rfl, rfl⟩, rfl⟩
  | some (.valued name), none =>
    match ts with
    | .positional value :: ts =>
      obtain ⟨rfl, rfl⟩ := Prod.mk.inj (Except.ok.inj h)
      exact .inr ⟨name, value, rfl, .inr ⟨rfl, rfl⟩, rfl⟩
    | [] => cases h
    | .separator :: ts => cases h
    | .option _ :: ts => cases h

/-- The latest value of an option comes before those that were taken earlier. -/
theorem lookup_options_takeOption {option : Found} {ts rest : List Token} {taken taken' : Taken}
    (h : takeOption option ts taken = .ok (taken', rest)) (name : Text) :
    ∃ value : Option Text,
      optionValues name (.option option :: ts) = value.toList ++ optionValues name rest ∧
      taken'.options.lookup name =
        (value.map fun value => withoutSeparator [value]).or (taken.options.lookup name) := by
  have hvalue (n value : Text) (vs : List Text) :
      ∃ v : Option Text, (if n = name then value :: vs else vs) = v.toList ++ vs ∧
        List.lookup name ((n, withoutSeparator [value]) :: taken.options) =
          (v.map fun value => withoutSeparator [value]).or (taken.options.lookup name) := by
    by_cases hn : n = name
    · exact ⟨some value, if_pos hn, by rw [hn, List.lookup_cons_self]; rfl⟩
    · exact ⟨none, if_neg hn, by rw [List.lookup_cons, beq_false_of_ne (Ne.symm hn)]; rfl⟩
  obtain ⟨argument, flag, short, value⟩ := option
  obtain ⟨hflag, rfl, rfl⟩ | ⟨n, v, hflag, hv, rfl⟩ := takeOption_cases h
  · obtain rfl : flag = none := hflag
    exact ⟨none, rfl, rfl⟩
  · obtain rfl : flag = some (.valued n) := hflag
    obtain ⟨hv, rfl⟩ | ⟨hv, rfl⟩ := hv
    · obtain rfl : value = some v := hv
      exact hvalue n v _
    · obtain rfl : value = none := hv
      exact hvalue n v _

theorem length_le_of_takeOption {option : Found} {ts rest : List Token} {taken taken' : Taken}
    (h : takeOption option ts taken = .ok (taken', rest)) : rest.length ≤ ts.length := by
  obtain ⟨-, rfl, -⟩ | ⟨_, _, -, ⟨-, rfl⟩ | ⟨-, rfl⟩, -⟩ := takeOption_cases h
  · exact Nat.le_refl _
  · exact Nat.le_refl _
  · exact Nat.le_succ _

/-- Separators are no options. -/
theorem exists_append_takeSeparators (ts : List Token) :
    ∃ before, ts = before ++ (takeSeparators ts).2 ∧ ∀ t ∈ before, t.isOption = false := by
  induction ts with
  | nil => exact ⟨[], rfl, nofun⟩
  | cons t ts ih =>
    cases t with
    | separator =>
      obtain ⟨before, hts, hbefore⟩ := ih
      exact ⟨.separator :: before, congrArg _ hts, List.forall_mem_cons.2 ⟨rfl, hbefore⟩⟩
    | positional _ => exact ⟨[], rfl, nofun⟩
    | option _ => exact ⟨[], rfl, nofun⟩

theorem exists_append_takeWanted {name : Text} {ts rest : List Token} {arguments : List Text}
    (h : takeWanted (.one name) ts = some (arguments, rest)) :
    ∃ before, ts = before ++ rest ∧ before ≠ [] ∧ ∀ t ∈ before, t.isOption = false := by
  obtain ⟨before, hts, hbefore⟩ := exists_append_takeSeparators ts
  simp only [takeWanted] at h
  split at h
  · next argument rest' hrest =>
    obtain ⟨after, hrest', hafter⟩ := exists_append_takeSeparators rest'
    obtain ⟨-, hrest''⟩ := Prod.mk.inj (Option.some.inj h)
    rw [hrest''] at hrest'
    refine ⟨before ++ .positional argument :: after, ?_, by simp, ?_⟩
    · rw [hts, hrest, hrest', List.append_assoc, List.cons_append]
    · intro t ht
      rcases List.mem_append.1 ht with ht | ht
      · exact hbefore t ht
      · rcases List.mem_cons.1 ht with rfl | ht
        · rfl
        · exact hafter t ht
  · cases h

/-- A group of single arguments ends before the next option. -/
theorem exists_append_takeAllWanted {wanted still : List Wanted} {ts rest : List Token}
    {found : List (Text × List Text)} (hwanted : ∀ w ∈ wanted, ∃ name, w = .one name)
    (h : takeAllWanted wanted ts = (found, still, rest)) :
    (∀ w ∈ still, w ∈ wanted) ∧
      ∃ before, ts = before ++ rest ∧ (∀ t ∈ before, t.isOption = false) ∧
        (found ≠ [] → before ≠ []) := by
  induction wanted generalizing ts found still rest with
  | nil =>
    cases h
    exact ⟨fun _ => id, [], rfl, nofun, fun h => absurd rfl h⟩
  | cons w wanted ih =>
    obtain ⟨⟨name, rfl⟩, hothers⟩ := List.forall_mem_cons.1 hwanted
    rw [takeAllWanted] at h
    split at h
    · cases h
      exact ⟨fun _ => id, [], rfl, nofun, fun h => absurd rfl h⟩
    · next arguments rest' htake =>
      obtain ⟨before, rfl, hne, hbefore⟩ := exists_append_takeWanted htake
      obtain ⟨found', still', rest'', hall⟩ : ∃ found' still' rest'',
        takeAllWanted wanted rest' = (found', still', rest'') := ⟨_, _, _, rfl⟩
      rw [hall] at h
      obtain ⟨hstill, after, rfl, hafter, -⟩ := ih hothers hall
      cases h
      refine ⟨fun w hw => List.mem_cons_of_mem _ (hstill w hw), before ++ after,
        (List.append_assoc _ _ _).symm, fun t ht => ?_, fun _ => ?_⟩
      · exact (List.mem_append.1 ht).elim (hbefore t) (hafter t)
      · exact List.append_ne_nil_of_left_ne_nil hne _

/-- The tokens before the next option. -/
theorem exists_append_takeWhile {ts : List Token} (hany : ts.any Token.isOption = true)
    (hhead : ∀ option ts', ts ≠ .option option :: ts') :
    ∃ before, before ≠ [] ∧ (∀ t ∈ before, t.isOption = false) ∧
      ts = before ++ ts.drop (ts.takeWhile fun t => !t.isOption).length := by
  refine ⟨ts.takeWhile fun t => !t.isOption, ?_, fun t ht => ?_, ?_⟩
  · match ts, hany with
    | .option option :: ts, _ => exact absurd rfl (hhead option ts)
    | .positional _ :: _, _ => exact List.cons_ne_nil _ _
    | .separator :: _, _ => exact List.cons_ne_nil _ _
  · exact Bool.not_eq_true' _ ▸ List.all_eq_true.1 List.all_takeWhile t ht
  · exact (List.prefix_iff_eq_append.1 (List.takeWhile_prefix _)).symm

/-- All options are taken, so of the values of an option the last one holds. -/
theorem lookup_options_take {fuel : Nat} {wanted missing : List Wanted} {ts : List Token}
    {taken taken' : Taken} (hwanted : ∀ w ∈ wanted, ∃ name, w = .one name)
    (hfuel : ts.length < fuel) (h : take fuel wanted ts taken = .ok (taken', missing))
    (name : Text) :
    taken'.options.lookup name =
      ((optionValues name ts).getLast?.map fun value => withoutSeparator [value]).or
        (taken.options.lookup name) := by
  induction fuel generalizing wanted ts taken with
  | zero => exact absurd hfuel (Nat.not_lt_zero _)
  | succ fuel ih =>
    obtain ⟨found, still, rest, hall⟩ : ∃ found still rest,
      takeAllWanted wanted ts = (found, still, rest) := ⟨_, _, _, rfl⟩
    -- A group that ends before an option is taken or set aside without a value for an option.
    have hgroup {wanted' : List Wanted} {before rest : List Token} {taken₁ : Taken}
        (hwanted' : ∀ w ∈ wanted', ∃ name, w = .one name) (hts : ts = before ++ rest)
        (hne : before ≠ []) (hbefore : ∀ t ∈ before, t.isOption = false)
        (h : take fuel wanted' rest taken₁ = .ok (taken', missing))
        (hoptions : taken₁.options = taken.options) :
        taken'.options.lookup name =
          ((optionValues name ts).getLast?.map fun value => withoutSeparator [value]).or
            (taken.options.lookup name) := by
      have hlength : rest.length < fuel := by
        have := List.length_pos_of_ne_nil hne
        rw [hts, List.length_append] at hfuel
        omega
      rw [hts, optionValues_append name hbefore, ih hwanted' hlength h, hoptions]
    cases hany : ts.any Token.isOption with
    | false =>
      rw [take_last hany hall] at h
      obtain ⟨rfl, -⟩ := Prod.mk.inj (Except.ok.inj h)
      have hnone (t : Token) (ht : t ∈ ts) : t.isOption = false :=
        Bool.eq_false_iff.2 (List.any_eq_false.1 hany t ht)
      rw [← List.append_nil ts, optionValues_append name hnone]
      rfl
    | true =>
      by_cases hhead : ∃ option ts', ts = .option option :: ts'
      · obtain ⟨option, ts', rfl⟩ := hhead
        rw [take_option] at h
        obtain ⟨⟨taken₁, rest₁⟩, hoption, h⟩ := bind_eq_ok h
        obtain ⟨value, hvalues, hlookup⟩ := lookup_options_takeOption hoption name
        have hlength : rest₁.length < fuel := by
          have := length_le_of_takeOption hoption
          rw [List.length_cons] at hfuel
          omega
        rw [ih hwanted hlength h, hvalues, hlookup, List.getLast?_append]
        cases (optionValues name rest₁).getLast? <;> cases value <;> rfl
      · have hhead (option : Found) (ts' : List Token) : ts ≠ .option option :: ts' :=
          fun heq => hhead ⟨option, ts', heq⟩
        by_cases hfound : found = []
        · subst hfound
          rw [take_strays hany hhead hall] at h
          obtain ⟨before, hne, hbefore, hts⟩ := exists_append_takeWhile hany hhead
          exact hgroup hwanted hts hne hbefore h rfl
        · rw [take_group hany hhead hall hfound] at h
          obtain ⟨hstill, before, hts, hbefore, hne⟩ := exists_append_takeAllWanted hwanted hall
          exact hgroup (fun w hw => hwanted w (hstill w hw)) hts (hne hfound) hbefore h rfl

/-- Of the values of an option the last one holds. -/
theorem lookup_options_takeArguments {flags : List Flag} (names : List Text)
    {arguments : List Text} {ts : List Token} {taken : Taken}
    (hts : tokens flags arguments = .ok ts)
    (h : takeArguments flags (names.map .one) arguments = .ok taken) (name : Text) :
    taken.options.lookup name =
      (optionValues name ts).getLast?.map fun value => withoutSeparator [value] := by
  rw [takeArguments, hts, ok_bind] at h
  obtain ⟨⟨taken', missing⟩, htake, h⟩ := bind_eq_ok h
  have hwanted (w : Wanted) (hw : w ∈ names.map Wanted.one) : ∃ name, w = .one name := by
    obtain ⟨name, -, rfl⟩ := List.mem_map.1 hw
    exact ⟨name, rfl⟩
  have hfuel : ts.length < 2 * ts.length + 1 := by omega
  have hlookup := lookup_options_take hwanted hfuel htake name
  dsimp only at h
  split at h
  · obtain rfl := Except.ok.inj h
    rw [hlookup, List.lookup_nil, Option.or_none]
  · cases h

/-! ## Commands -/

/-- An argument is its own value, unless it is a separator. -/
theorem withoutSeparator_singleton (argument : Text) :
    withoutSeparator [argument] = if argument = "--" then none else some argument := by
  by_cases h : argument = "--"
  · rw [if_pos h, h]
    rfl
  · rw [if_neg h, withoutSeparator, List.erase_cons_tail (by simpa using h)]
    rfl

theorem withoutSeparator_of_head?_ne {argument : Text}
    (h : argument.head? ≠ some (CodePoint.ofChar '-')) :
    withoutSeparator [argument] = some argument := by
  rw [withoutSeparator_singleton, if_neg]
  rintro rfl
  exact h rfl

theorem parse_sign {name : Text} (h : name.head? ≠ some (CodePoint.ofChar '-')) :
    parse ["sign", name] = .ok (.sign (some name)) := by
  have htokens : tokens [.help] [name] = .ok [.positional name] := by
    rw [tokens_cons_of_head?_ne h]
    rfl
  have htake : takeArguments [.help] [.one "config"] [name] =
      .ok ⟨[("config", [name])], [], []⟩ := by
    rw [takeArguments, htokens]
    rfl
  have hsign : takeSign [name] = .ok (.sign (withoutSeparator [name]), []) := by
    rw [takeSign, htake]
    rfl
  have hcommand : takeCommand "sign" [name] = takeSign [name] := if_pos rfl
  rw [parse_cons (by decide), hcommand, hsign, withoutSeparator_of_head?_ne h]
  rfl

/-- The options of the command that verifies. -/
abbrev verifyFlags : List Flag := [.help, .valued "admin"]

/-- The values of the option that names an administrator, among the arguments of the command that
verifies. -/
def adminValues (arguments : List Text) : List Text :=
  match tokens verifyFlags arguments with
  | .ok ts => optionValues "admin" ts
  | .error _ => []

/-- The administrator of the command is the last one that the arguments name. -/
theorem admin_of_parse {arguments : List Text} {command : Command}
    (h : parse ("verify" :: arguments) = .ok command) :
    ∃ signature payload, command = .verify signature payload
      ((adminValues arguments).getLast?.map fun value => withoutSeparator [value]) := by
  have hcommand : takeCommand "verify" arguments = takeVerify arguments := rfl
  rw [parse_cons (by decide), hcommand] at h
  obtain ⟨⟨command', extras⟩, htake, h⟩ := bind_eq_ok h
  obtain ⟨taken, htaken, htake⟩ := bind_eq_ok htake
  replace htaken := mapError_eq_ok htaken
  obtain ⟨ts, hts, -⟩ := bind_eq_ok htaken
  have hlookup := lookup_options_takeArguments ["signature", "payload"] hts htaken "admin"
  obtain ⟨rfl, rfl⟩ := Prod.mk.inj (Except.ok.inj htake)
  dsimp only at h
  split at h
  · rw [← Except.ok.inj h, hlookup, adminValues, hts]
    exact ⟨_, _, rfl⟩
  · cases h

/-- A shortened option counts, and of several values the last. -/
example : adminValues ["s", "--adm=a", "p", "--admin", "b"] = ["a", "b"] := rfl

/-- The arguments of the command that verifies. -/
def verifyArguments (signature payload : Text) : Option Text → List Text
  | none => [signature, payload]
  | some admin => [signature, payload, "--admin", admin]

section Verify

variable {signature payload : Text} {admin : Option Text}

theorem tokens_verifyArguments (hsignature : signature.head? ≠ some (CodePoint.ofChar '-'))
    (hpayload : payload.head? ≠ some (CodePoint.ofChar '-'))
    (hadmin : ∀ a ∈ admin, a.head? ≠ some (CodePoint.ofChar '-')) :
    tokens verifyFlags (verifyArguments signature payload admin) =
      .ok (.positional signature :: .positional payload ::
        match admin with
        | none => []
        | some a =>
          [.option ⟨"--admin", some (.valued "admin"), false, none⟩, .positional a]) := by
  have hoption : classify verifyFlags "--admin" =
      .ok (.option ⟨"--admin", some (.valued "admin"), false, none⟩) := rfl
  cases admin with
  | none =>
    rw [verifyArguments, tokens_cons_of_head?_ne hsignature, tokens_cons_of_head?_ne hpayload]
    rfl
  | some a =>
    have hrest : tokens verifyFlags ["--admin", a] =
        .ok [.option ⟨"--admin", some (.valued "admin"), false, none⟩, .positional a] := by
      rw [tokens, if_neg (by decide), hoption, tokens_cons_of_head?_ne (hadmin a rfl)]
      rfl
    rw [verifyArguments, tokens_cons_of_head?_ne hsignature, tokens_cons_of_head?_ne hpayload,
      hrest]
    rfl

theorem adminValues_verifyArguments (hsignature : signature.head? ≠ some (CodePoint.ofChar '-'))
    (hpayload : payload.head? ≠ some (CodePoint.ofChar '-'))
    (hadmin : ∀ a ∈ admin, a.head? ≠ some (CodePoint.ofChar '-')) :
    adminValues (verifyArguments signature payload admin) = admin.toList := by
  rw [adminValues, tokens_verifyArguments hsignature hpayload hadmin]
  cases admin <;> rfl

theorem parse_verify (hsignature : signature.head? ≠ some (CodePoint.ofChar '-'))
    (hpayload : payload.head? ≠ some (CodePoint.ofChar '-'))
    (hadmin : ∀ a ∈ admin, a.head? ≠ some (CodePoint.ofChar '-')) :
    parse ("verify" :: verifyArguments signature payload admin) =
      .ok (.verify (some signature) (some payload) (admin.map some)) := by
  have hverify : takeVerify (verifyArguments signature payload admin) =
      .ok (.verify (withoutSeparator [signature]) (withoutSeparator [payload])
        (admin.map fun a => withoutSeparator [a]), []) := by
    rw [takeVerify, takeArguments, tokens_verifyArguments hsignature hpayload hadmin]
    cases admin <;> rfl
  have hcommand (arguments : List Text) : takeCommand "verify" arguments = takeVerify arguments :=
    rfl
  rw [parse_cons (by decide), hcommand, hverify, withoutSeparator_of_head?_ne hsignature,
    withoutSeparator_of_head?_ne hpayload]
  cases admin with
  | none => rfl
  | some a =>
    rw [Option.map_some, withoutSeparator_of_head?_ne (hadmin a rfl)]
    rfl

end Verify

end SignedSetup.CommandLine
