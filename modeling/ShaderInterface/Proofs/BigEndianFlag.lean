import ShaderInterface.CommandLine.Run

namespace ShaderInterface.CommandLine

/-- A request with the question of byte order left open. -/
def Request.unordered : Request → Request
  | .help => .help
  | .report o => .report { o with bigEndian := false }

namespace Progress

/-- The same arguments so far, but for a byte order and what was the last of them. -/
structure Agree (p q : Progress) : Prop where
  file : p.file? = q.file?
  surplus : p.surplus = q.surplus
  flags : ∀ flag, flag ≠ Flag.bigEndian → p.flags.contains flag = q.flags.contains flag

theorem Agree.request {p q : Progress} (h : Agree p q) :
    p.request.map Request.unordered = q.request.map Request.unordered := by
  unfold Progress.request
  rw [h.file, h.surplus, h.flags .verbose (by decide)]
  cases q.file? with
  | none => rfl
  | some path => cases q.surplus <;> rfl

theorem Agree.append {p q : Progress} (h : Agree p q) (chosen : List Flag) :
    Agree ⟨p.flags ++ chosen, p.file?, p.surplus, false⟩
      ⟨q.flags ++ chosen, q.file?, q.surplus, false⟩ where
  file := h.file
  surplus := h.surplus
  flags flag hne := by
    have hflag := h.flags flag hne
    simp only [List.contains_eq_mem, List.mem_append, Bool.decide_or] at hflag ⊢
    rw [hflag]

/-- Progress that agrees leads to the same request. Only a separator asks what stood before it. -/
theorem Agree.advance {p q : Progress} (h : Agree p q) {l : List Argument}
    (hat : p.atFile = q.atFile ∨ l.head? ≠ some .separator) :
    (p.advance l).map Request.unordered = (q.advance l).map Request.unordered := by
  induction l generalizing p q with
  | nil => exact h.request
  | cons a rest ih =>
    cases a with
    | flags chosen =>
      simp only [Progress.advance]
      split
      · rfl
      · exact ih (h.append chosen) (.inl rfl)
    | valued flag value => rfl
    | separator =>
      have hat : p.atFile = q.atFile := hat.resolve_right fun hne => hne rfl
      simp only [Progress.advance, hat, h.file, h.surplus]
      exact ih ⟨rfl, rfl, h.flags⟩ (.inl rfl)
    | file path =>
      simp only [Progress.advance, h.file, h.surplus]
      cases q.file? with
      | none => exact ih ⟨rfl, rfl, h.flags⟩ (.inl rfl)
      | some _ => exact ih ⟨rfl, rfl, h.flags⟩ (.inl rfl)
    | unknown text =>
      simp only [Progress.advance, h.file, h.surplus]
      exact ih ⟨rfl, rfl, h.flags⟩ (.inl rfl)

theorem agree_bigEndian (p : Progress) :
    Agree ⟨p.flags ++ [.bigEndian], p.file?, p.surplus, false⟩ p where
  file := rfl
  surplus := rfl
  flags flag hne := by
    simp only [List.contains_eq_mem, List.mem_append, List.mem_singleton, hne, or_false]

/-- The flag counts for nothing but the byte order, wherever it stands in front of `after`. -/
theorem advance_insert (p : Progress) (before after : List Argument)
    (h : before = [] ∧ p.atFile = false ∨ after.head? ≠ some .separator) :
    (p.advance (before ++ .flags [.bigEndian] :: after)).map Request.unordered =
      (p.advance (before ++ after)).map Request.unordered := by
  induction before generalizing p with
  | nil =>
    refine (agree_bigEndian p).advance ?_
    rcases h with ⟨-, hat⟩ | hne
    · exact .inl hat.symm
    · exact .inr hne
  | cons a rest ih =>
    -- Behind an argument only the second alternative is left, whatever the progress.
    have hne := h.resolve_left fun hnil => nomatch hnil.1
    have ih := fun p => ih p (.inr hne)
    rw [List.cons_append, List.cons_append]
    cases a with
    | flags chosen =>
      simp only [Progress.advance]
      split
      · rfl
      · exact ih _
    | valued flag value => rfl
    | separator =>
      simp only [Progress.advance]
      exact ih _
    | file path =>
      simp only [Progress.advance]
      cases p.file? <;> exact ih _
    | unknown text =>
      simp only [Progress.advance]
      exact ih _

end Progress

namespace Argument

theorem ofString_bigEndian : ofString "--big-endian" = .ok (.flags [.bigEndian]) := rfl

theorem cluster_ne_separator (chosen : List Flag) (last : Flag) (letters : List Char) :
    cluster chosen last letters ≠ .separator := by
  induction letters generalizing chosen last with
  | nil => nofun
  | cons letter rest ih =>
    rw [cluster]
    split
    · exact ih _ _
    · nofun

theorem afterLetter_ne_separator (flag : Flag) (letters : List Char) :
    afterLetter flag letters ≠ .separator := by
  unfold afterLetter
  split
  · nofun
  · exact cluster_ne_separator _ _ _
  · exact cluster_ne_separator _ _ _

theorem ofString_ne_separator (text : String) : ofString text ≠ .ok .separator := by
  intro h
  unfold ofString at h
  split at h
  -- A long flag, a cluster of letters, or a file: none of these is a separator.
  · dsimp only at h
    split at h
    · cases h
    · cases h
    · split at h <;> cases h
    · cases h
  · split at h
    · exact afterLetter_ne_separator _ _ (Except.ok.inj h)
    · dsimp only at h
      split at h <;> cases h
  · cases h

/-- Up to the first separator the arguments are read one by one. -/
theorem readAll_append {before : List String} (h : "--" ∉ before) (after : List String) :
    readAll (before ++ after) =
      (readAll before).bind fun first => (readAll after).map (first ++ ·) := by
  induction before with
  | nil =>
    change readAll after = (readAll after).map ([] ++ ·)
    cases readAll after <;> rfl
  | cons text rest ih =>
    have htext : text ≠ "--" := fun he => h (he ▸ List.mem_cons_self)
    have ih := ih fun hmem => h (List.mem_cons_of_mem _ hmem)
    rw [List.cons_append, readAll.eq_3 _ _ htext, readAll.eq_3 _ _ htext, ih]
    cases ofString text with
    | error e => rfl
    | ok first =>
      cases readAll rest with
      | error e => rfl
      | ok others => cases readAll after <;> rfl

theorem readAll_bigEndian (after : List String) :
    readAll ("--big-endian" :: after) = (readAll after).map (.flags [.bigEndian] :: ·) := by
  rw [readAll.eq_3 _ _ (by decide), ofString_bigEndian]
  cases readAll after <;> rfl

theorem readAll_head?_ne {after : List String} (h : after.head? ≠ some "--") {l : List Argument}
    (hl : readAll after = .ok l) : l.head? ≠ some .separator := by
  cases after with
  | nil =>
    cases hl
    nofun
  | cons text rest =>
    have htext : text ≠ "--" := fun he => h (congrArg some he)
    rw [readAll.eq_3 _ _ htext] at hl
    cases hfirst : ofString text with
    | error e =>
      rw [hfirst] at hl
      cases hl
    | ok first =>
      rw [hfirst] at hl
      cases hrest : readAll rest with
      | error e =>
        rw [hrest] at hl
        cases hl
      | ok others =>
        rw [hrest] at hl
        cases hl
        intro he
        exact ofString_ne_separator text (hfirst.trans (congrArg Except.ok (Option.some.inj he)))

end Argument

/-- The flag changes the byte order of a request and nothing else, if it stands beside no `--`. -/
theorem Request.ofArguments_insert {before after : List String} (hbefore : "--" ∉ before)
    (hafter : before = [] ∨ after.head? ≠ some "--") :
    (ofArguments (before ++ "--big-endian" :: after)).map unordered =
      (ofArguments (before ++ after)).map unordered := by
  unfold ofArguments
  rw [Argument.readAll_append hbefore, Argument.readAll_append hbefore, Argument.readAll_bigEndian]
  cases hfirst : Argument.readAll before with
  | error e => rfl
  | ok first =>
    cases hrest : Argument.readAll after with
    | error e => rfl
    | ok rest =>
      refine Progress.advance_insert .empty first rest ?_
      rcases hafter with rfl | hne
      · cases hfirst
        exact .inl ⟨rfl, rfl⟩
      · exact .inr (Argument.readAll_head?_ne hne hrest)

end ShaderInterface.CommandLine
