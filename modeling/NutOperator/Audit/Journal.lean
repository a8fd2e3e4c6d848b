import NutOperator.Audit.Replay

/-! No acknowledged record disappears. From the moment of its append a line stays in
the journal until a replay has handed it to the primary writer, whatever is
appended, read or refused in between. -/
namespace NutOperator.Audit

open Data Execution List

variable {σ : Type} {codec : Codec} {primary : PrimaryWriter σ} {writers : Nat → SpoolWriter}

/-- What a failed append leaves behind does not end in a newline. -/
def EndsTorn (codec : Codec) (journal : Bytes) : Prop :=
  ∃ closed torn, journal = closed ++ torn ∧ Closed newline closed ∧ newline ∉ torn ∧
    Torn codec.marshal torn

theorem endsTorn_of_closed {journal : Bytes} (h : Closed newline journal) :
    EndsTorn codec journal :=
  ⟨journal, [], (append_nil _).symm, h, not_mem_nil, .nil⟩

variable {line : Bytes} {entry : SpoolRecord} {disk : Disk} {s : Spool σ}

theorem EndsTorn.append {jrn part : Bytes} (h : EndsTorn codec jrn)
    (hline : codec.marshal entry = .ok line) (hpart : part <+: line ++ [newline]) :
    EndsTorn codec (jrn ++ part) := by
  rcases prefix_line_cases hpart with hpiece | rfl
  · obtain ⟨closed, torn, rfl, hc, hn, htorn⟩ := h
    refine ⟨closed, torn ++ part, append_assoc _ _ _, hc, ?_, htorn.append hline hpiece⟩
    intro hmem
    exact (mem_append.mp hmem).elim hn fun h => codec.newline_not_mem hline (hpiece.subset h)
  · rw [← append_assoc]
    exact endsTorn_of_closed (closed_append_separator _)

structure Spool.Sound (codec : Codec) (s : Spool σ) : Prop where
  tail : EndsTorn codec s.disk.journal
  reading : ∀ run, s.replay = some run →
    s.disk.path = some run.snapshot.inode ∧ run.snapshot.size ≤ s.disk.journal.length

theorem Disk.Grows.endsTorn {later : Disk} {part : Bytes} (h : disk.Grows part later)
    (htail : EndsTorn codec (disk.journal ++ part)) : EndsTorn codec later.journal := by
  rw [h.journal]
  exact htail

theorem AppendEffect.grows {writer : SpoolWriter} {stats : SpoolStats} {result : Appended}
    (h : AppendEffect writer codec entry disk stats result) (htail : EndsTorn codec disk.journal) :
    ∃ part, disk.Grows part result.disk ∧ EndsTorn codec (disk.journal ++ part) := by
  cases h with
  | failed hdisk => exact ⟨[], hdisk, by rwa [append_nil]⟩
  | refused hdisk => exact ⟨[], hdisk, by rwa [append_nil]⟩
  | wrote hline hpart _ hdisk => exact ⟨_, hdisk, htail.append hline hpart⟩

theorem removeUnchangedSpool_cases (statErr removeErr : Option String) (disk : Disk)
    (snapshot : Snapshot) : (removeUnchangedSpool statErr removeErr disk snapshot).2 = disk ∨
      (disk.path = some snapshot.inode ∧ snapshot.size = (disk.content snapshot.inode).length ∧
        (removeUnchangedSpool statErr removeErr disk snapshot).2 = { disk with path := none }) := by
  unfold removeUnchangedSpool
  split
  · exact .inl rfl
  rename_i inode hpath
  split
  · exact .inl rfl
  split
  · exact .inl rfl
  rename_i hsame
  obtain ⟨hinode, hsize, -⟩ : snapshot.inode = inode ∧
      snapshot.size = (disk.content inode).length ∧ snapshot.modTime = disk.modTime inode := by
    simpa [not_or] using hsame
  subst hinode
  split
  · exact .inl rfl
  · exact .inr ⟨hpath, hsize, rfl⟩

theorem ReplayRun.conclude_cases (run : ReplayRun) (statErr removeErr : Option String)
    (disk : Disk) :
    (run.conclude statErr removeErr disk).2 = disk ∨ (run.replayErr = none ∧ run.stats.skipped = 0 ∧
        disk.path = some run.snapshot.inode ∧
        run.snapshot.size = (disk.content run.snapshot.inode).length ∧
        (run.conclude statErr removeErr disk).2 = { disk with path := none }) := by
  unfold ReplayRun.conclude
  split
  · exact .inl rfl
  rename_i herr
  split
  · rename_i hskip
    rcases removeUnchangedSpool_cases statErr removeErr disk run.snapshot with
      hkept | ⟨hpath, hsize, hr⟩
    · exact .inl hkept
    · exact .inr ⟨herr, hskip, hpath, hsize, hr⟩
  · exact .inl rfl

variable {run : ReplayRun} {later next : Spool σ} {rest : Bytes}

theorem Spool.beginReplay_eq_ok {directory : String} {contextErr openErr statErr : Option String}
    (h : s.beginReplay directory contextErr openErr statErr = .ok run) :
    s.disk.path = some run.snapshot.inode ∧ run =
        { snapshot := run.snapshot
          limit := s.disk.journal.length } ∧
      run.snapshot.size = s.disk.journal.length := by
  unfold Spool.beginReplay at h
  split at h
  · cases h
  split at h
  · cases h
  split at h
  · cases h
  split at h
  · cases h
  · cases h
  rename_i snapshot hsnapshot
  obtain rfl := Except.ok.inj h
  unfold openSpoolSnapshot at hsnapshot
  split at hsnapshot
  · cases hsnapshot
  rename_i inode hpath
  split at hsnapshot
  · cases hsnapshot
  split at hsnapshot
  · cases hsnapshot
  obtain rfl := Except.ok.inj hsnapshot
  refine ⟨hpath, ?_, ?_⟩
  · simp [Disk.journal_of_path hpath]
  · simp [Disk.journal_of_path hpath]

@[simp] theorem ReplayRun.pass_snapshot (run : ReplayRun) (consumed : Nat) (line : Line) :
    (run.pass consumed line).snapshot = run.snapshot := by
  cases line <;> rfl

@[simp] theorem ReplayRun.deliver_snapshot (run : ReplayRun) (consumed : Nat) (key : String)
    (record : Record) (err : Option String) :
    (run.deliver consumed key record err).snapshot = run.snapshot := by
  cases err <;> rfl

theorem Spool.Sound.step {event : SpoolEvent} (hsound : s.Sound codec)
    (hstep : Spool.Step codec primary writers s event next) : next.Sound codec := by
  cases hstep with
  | wrote => exact ⟨hsound.tail, hsound.reading⟩
  | @appended before after fallback env now entry result hfall he hr =>
    subst hr
    obtain ⟨part, hgrows, htail⟩ := (append_effect (writers fallback.writer) codec env entry s.disk
      (s.stats fallback.writer)).grows hsound.tail
    refine ⟨hgrows.endsTorn htail, ?_⟩
    intro run hrun
    obtain ⟨hpath, hsize⟩ := hsound.reading run hrun
    refine ⟨hgrows.path _ hpath, ?_⟩
    rw [hgrows.journal, length_append]
    exact hsize.trans (Nat.le_add_right _ _)
  | declined => exact hsound
  | opened hbegin =>
    obtain ⟨hpath, -, hsize⟩ := Spool.beginReplay_eq_ok hbegin
    refine ⟨hsound.tail, ?_⟩
    rintro run ⟨⟩
    exact ⟨hpath, hsize.le⟩
  | readFailed hreplay =>
    have hread := hsound.reading _ hreplay
    refine ⟨hsound.tail, ?_⟩
    rintro run ⟨⟩
    exact hread
  | passed hreplay =>
    refine ⟨hsound.tail, ?_⟩
    rintro run ⟨⟩
    simpa using hsound.reading _ hreplay
  | delivered hreplay =>
    refine ⟨hsound.tail, ?_⟩
    rintro run ⟨⟩
    simpa using hsound.reading _ hreplay
  | @concluded run statErr removeErr hreplay hscan =>
    refine ⟨?_, nofun⟩
    show EndsTorn codec (run.conclude statErr removeErr s.disk).2.journal
    rcases run.conclude_cases statErr removeErr s.disk with hkept | ⟨-, -, -, -, hremoved⟩
    · rw [hkept]
      exact hsound.tail
    · rw [hremoved]
      exact endsTorn_of_closed closed_nil
  | _ => exact ⟨hsound.tail, nofun⟩

theorem Spool.Sound.reaches {events : List SpoolEvent} (hsound : s.Sound codec)
    (hreaches : Spool.Reaches codec primary writers s events later) : later.Sound codec := by
  induction hreaches with
  | refl => exact hsound
  | step hstep _ ih => exact ih (hsound.step hstep)

theorem Spool.Reaches.trans {mid : Spool σ} {before after : List SpoolEvent}
    (hbefore : Spool.Reaches codec primary writers s before mid)
    (hafter : Spool.Reaches codec primary writers mid after later) :
    Spool.Reaches codec primary writers s (before ++ after) later := by
  induction hbefore with
  | refl => exact hafter
  | step hstep _ ih => exact .step hstep (ih hafter)

/-- Where a replay stands towards a line that follows `closed ++ torn`: its snapshot
is older than the line, it cannot end well, or it has yet to come to it. -/
inductive ReplayRun.Pending (run : ReplayRun) (closed torn line : Bytes) : Prop where
  | older (h : run.snapshot.size ≤ (closed ++ torn).length)
  | unreadable (h : run.readErr ≠ none)
  | marred (h : run.stats.skipped ≠ 0 ∨ run.replayErr ≠ none)
  | ahead {before rest : Bytes} (hclosed : closed = before ++ rest)
      (hoffset : run.offset = before.length) (hrest : Closed newline rest)
      (hlimit : (closed ++ torn ++ line).length < run.limit)

def Spool.Holds (codec : Codec) (line : Bytes) (s : Spool σ) : Prop :=
  ∃ closed torn post, s.disk.journal = closed ++ torn ++ line ++ newline :: post ∧
    Closed newline closed ∧ newline ∉ torn ∧ Torn codec.marshal torn ∧
      ∀ run, s.replay = some run → run.Pending closed torn line

theorem ReplayRun.unread_eq {before post : Bytes} (hpath : disk.path = some run.snapshot.inode)
    (hjournal : disk.journal = before ++ rest ++ post) (hoffset : run.offset = before.length)
    (hlimit : (before ++ rest).length ≤ run.limit) : ∃ later, run.unread disk = rest ++ later := by
  refine ⟨post.take (run.limit - (before ++ rest).length), ?_⟩
  unfold ReplayRun.unread
  rw [← Disk.journal_of_path hpath, hjournal, take_append, take_of_length_le hlimit,
    hoffset, append_assoc, drop_left]

theorem scan_line_iff {readErr : Option String} {token : Bytes} {consumed : Nat}
    (hline : newline ∉ line) : scan (line ++ newline :: rest) readErr = .line token consumed ↔
      line.length < maxLineBytes ∧ token = dropCarriageReturn line ∧
        consumed = line.length + 1 := by
  unfold scan
  rw [if_neg (by simp), firstLine_append hline]
  dsimp only
  split
  · rename_i hlong
    simp [not_lt.mpr hlong]
  · rename_i hs
    simp [not_le.mp hs, eq_comm]

theorem scan_eq_line {unread token : Bytes} {readErr : Option String} {consumed : Nat}
    (h : scan unread readErr = .line token consumed) : unread ≠ [] ∧
      token = dropCarriageReturn (firstLine newline unread) ∧
      consumed = (firstLine newline unread).length + 1 ∧
      (firstLine newline unread).length < maxLineBytes := by
  unfold scan at h
  split at h
  · split at h <;> cases h
  rename_i hsome
  dsimp only at h
  split at h
  · cases h
  rename_i hshort
  cases h
  exact ⟨hsome, rfl, rfl, not_le.mp hshort⟩

theorem dropCarriageReturn_marshal (hline : codec.marshal entry = .ok line) (torn : Bytes) :
    dropCarriageReturn (torn ++ line) = torn ++ line := by
  have hlast : (torn ++ line).getLast? = some closingBrace := by
    rw [List.getLast?_append, codec.getLast_marshal hline]
    rfl
  unfold dropCarriageReturn
  rw [hlast, if_neg (by decide)]

theorem marshal_ne_nil (hline : codec.marshal entry = .ok line) : line ≠ [] := by
  rintro rfl
  have := codec.getLast_marshal hline
  cases this

theorem readLine_marshal {torn : Bytes} {key : String} {record : Record}
    (hentry : entry.kind = entry.payload.1.name) (hline : codec.marshal entry = .ok line)
    (htorn : Torn codec.marshal torn) (hread : codec.readLine (torn ++ line) = .entry key record) :
    record = entry.payload := by
  unfold Codec.readLine at hread
  rw [if_neg (append_ne_nil_of_right_ne_nil _ (marshal_ne_nil hline))] at hread
  by_cases hnil : torn = []
  · subst hnil
    obtain ⟨raw, hu, hpayload⟩ := codec.unmarshal_marshal hline
    have hd : codec.replayRecord ⟨entry.kind, entry.key, raw⟩ =
        (codec.unmarshalPayload entry.payload.1 raw).map (Sigma.mk entry.payload.1) := by
      unfold Codec.replayRecord
      simp only [hentry, Kind.ofName_name, Option.bind_eq_bind, Option.bind_some]
      cases codec.unmarshalPayload entry.payload.1 raw <;> rfl
    rw [nil_append, hu] at hread
    dsimp only at hread
    rw [hd] at hread
    cases hdecoded : codec.unmarshalPayload entry.payload.1 raw with
    | none =>
      rw [hdecoded] at hread
      cases hread
    | some payload =>
      rw [hdecoded] at hread
      cases hread
      rw [hpayload payload hdecoded]
  · rw [codec.unmarshal_torn htorn hnil hline] at hread
    cases hread

theorem scan_ahead {closed torn post before token : Bytes} {consumed : Nat}
    (hpath : disk.path = some run.snapshot.inode)
    (hjournal : disk.journal = closed ++ torn ++ line ++ newline :: post)
    (hline : codec.marshal entry = .ok line) (htorn : newline ∉ torn)
    (hclosed : closed = before ++ rest) (hoffset : run.offset = before.length)
    (hrest : Closed newline rest) (hlimit : (closed ++ torn ++ line).length < run.limit)
    (hscan : run.scan disk = .line token consumed) :
    token = torn ++ line ∨
      ∃ read left, closed = read ++ left ∧ run.offset + consumed = read.length ∧
        Closed newline left := by
  by_cases hnil : rest = []
  · subst hnil
    rw [append_nil] at hclosed
    subst hclosed
    left
    have hlen : (closed ++ (torn ++ line ++ [newline])).length ≤ run.limit := by
      simp only [length_append, length_singleton] at hlimit ⊢
      omega
    obtain ⟨later, hunread⟩ := run.unread_eq hpath
      (show disk.journal = closed ++ (torn ++ line ++ [newline]) ++ post by simp [hjournal])
      hoffset hlen
    unfold ReplayRun.scan at hscan
    rw [hunread, append_assoc _ [newline], singleton_append] at hscan
    have hn : newline ∉ torn ++ line := by
      simpa [not_or] using And.intro htorn (codec.newline_not_mem hline)
    rw [((scan_line_iff hn).mp hscan).2.1, dropCarriageReturn_marshal hline]
  · obtain ⟨first, left, rfl, hfirst, hleft⟩ := hrest.exists_line hnil
    right
    have hlen : (before ++ (first ++ [newline])).length ≤ run.limit := by
      subst hclosed
      simp only [length_append, length_cons, length_nil] at hlimit ⊢
      omega
    obtain ⟨later, hunread⟩ := run.unread_eq hpath (show disk.journal =
        before ++ (first ++ [newline]) ++ (left ++ torn ++ line ++ newline :: post) by
          simp [hjournal, hclosed])
      hoffset hlen
    unfold ReplayRun.scan at hscan
    rw [hunread, append_assoc _ [newline], singleton_append] at hscan
    refine ⟨before ++ (first ++ [newline]), left, by simp [hclosed], ?_, hleft⟩
    rw [((scan_line_iff hfirst).mp hscan).2.2, hoffset]
    simp

section

variable {closed torn post token : Bytes} {consumed : Nat}

theorem ReplayRun.Pending.pass (hpending : run.Pending closed torn line)
    (hpath : disk.path = some run.snapshot.inode)
    (hjournal : disk.journal = closed ++ torn ++ line ++ newline :: post)
    (hline : codec.marshal entry = .ok line) (htorn : newline ∉ torn)
    (hscan : run.scan disk = .line token consumed)
    (hread : ∀ key record, codec.readLine token ≠ .entry key record) :
    (run.pass consumed (codec.readLine token)).Pending closed torn line := by
  cases hpending with
  | older h => exact .older (by simpa using h)
  | unreadable h => exact .unreadable (by cases codec.readLine token <;> exact h)
  | marred h =>
    refine .marred (h.imp ?_ ?_)
    · intro hskip
      cases codec.readLine token with
      | empty => exact hskip
      | _ => exact Nat.succ_ne_zero _
    · intro herr
      cases codec.readLine token <;> exact herr
  | ahead hc ho hrest hlimit =>
    rcases scan_ahead hpath hjournal hline htorn hc ho hrest hlimit hscan with
      rfl | ⟨read, left, hsplit, hnext, hleft⟩
    · refine .marred (.inl ?_)
      cases hkind : codec.readLine (torn ++ line) with
      | empty =>
        unfold Codec.readLine at hkind
        rw [if_neg (append_ne_nil_of_right_ne_nil _ (marshal_ne_nil hline))] at hkind
        split at hkind
        · cases hkind
        · split at hkind <;> cases hkind
      | unrecognized => exact Nat.succ_ne_zero _
      | entry key record => exact absurd hkind (hread key record)
    · refine .ahead hsplit ?_ hleft ?_
      · cases codec.readLine token <;> exact hnext
      · cases codec.readLine token <;> exact hlimit

theorem ReplayRun.Pending.deliver {key : String} {record : Record} (err : Option String)
    (hpending : run.Pending closed torn line) (hpath : disk.path = some run.snapshot.inode)
    (hjournal : disk.journal = closed ++ torn ++ line ++ newline :: post)
    (hkind : entry.kind = entry.payload.1.name) (hline : codec.marshal entry = .ok line)
    (htorn : newline ∉ torn) (hpieces : Torn codec.marshal torn)
    (hscan : run.scan disk = .line token consumed)
    (hread : codec.readLine token = .entry key record) :
    (run.deliver consumed key record err).Pending closed torn line ∨
      (record = entry.payload ∧ err = none) := by
  cases hpending with
  | older h => exact .inl (.older (by simpa using h))
  | unreadable h => exact .inl (.unreadable (by cases err <;> exact h))
  | marred h =>
    refine .inl (.marred (h.imp ?_ ?_))
    · intro hskip
      cases err <;> exact hskip
    · intro herr
      cases err with
      | none => exact herr
      | some err => cases hrun : run.replayErr <;> simp [ReplayRun.deliver, joinErrors, hrun]
  | ahead hc ho hrest hlimit =>
    rcases scan_ahead hpath hjournal hline htorn hc ho hrest hlimit hscan with
      rfl | ⟨before, left, hs, hnext, hleft⟩
    · cases err with
      | none => exact .inr ⟨readLine_marshal hkind hline hpieces hread, rfl⟩
      | some err =>
        refine .inl (.marred (.inr ?_))
        cases hrun : run.replayErr <;> simp [ReplayRun.deliver, joinErrors, hrun]
    · refine .inl (.ahead hs ?_ hleft ?_)
      · cases err <;> exact hnext
      · cases err <;> exact hlimit

theorem ReplayRun.Pending.conclude (hpending : run.Pending closed torn line)
    (hpath : disk.path = some run.snapshot.inode)
    (hjournal : disk.journal = closed ++ torn ++ line ++ newline :: post)
    (hscan : run.scan disk = .ended) (statErr removeErr : Option String) :
    (run.conclude statErr removeErr disk).2 = disk := by
  refine (run.conclude_cases statErr removeErr disk).resolve_right ?_
  rintro ⟨herr, hskip, -, hsize, -⟩
  have hended : run.unread disk = [] ∧ run.readErr = none := by
    unfold ReplayRun.scan Audit.scan at hscan
    split at hscan
    · rename_i hunread
      split at hscan
      · cases hscan
      · rename_i hreadErr
        exact ⟨hunread, hreadErr⟩
    · dsimp only at hscan
      split at hscan <;> cases hscan
  cases hpending with
  | older h =>
    rw [← Disk.journal_of_path hpath, hjournal] at hsize
    simp only [length_append, length_cons] at h hsize
    omega
  | unreadable h => exact h hended.2
  | marred h => exact h.elim (fun h => h hskip) (fun h => h herr)
  | @ahead before rest hc ho hrest hl =>
    have hlen : (before ++ (rest ++ torn ++ line ++ [newline])).length ≤ run.limit := by
      subst hc
      simp only [length_append, length_cons, length_nil] at hl ⊢
      omega
    obtain ⟨later, hunread⟩ := run.unread_eq hpath
      (show disk.journal = before ++ (rest ++ torn ++ line ++ [newline]) ++ post by
        simp [hjournal, hc])
      ho hlen
    rw [hended.1] at hunread
    have := congrArg List.length hunread
    simp at this

end

section

variable {event : SpoolEvent} {events : List SpoolEvent}

section

variable (hholds : s.Holds codec line) (hsound : s.Sound codec)
  (hkind : entry.kind = entry.payload.1.name) (hline : codec.marshal entry = .ok line)
include hholds hsound hkind hline

/-- One step keeps a line in the journal, unless it is the step that hands it on. -/
theorem Spool.Holds.step (hstep : Spool.Step codec primary writers s event next) :
    next.Holds codec line ∨ event = .delivered entry.payload none := by
  obtain ⟨closed, torn, post, hjournal, hclosed, hnewline, htorn, hpending⟩ := hholds
  have hkept : ∀ {later : Spool σ}, later.disk = s.disk →
      (∀ run, later.replay = some run → run.Pending closed torn line) → later.Holds codec line :=
    fun hdisk hl => ⟨closed, torn, post, hdisk ▸ hjournal, hclosed, hnewline, htorn, hl⟩
  cases hstep with
  | wrote => exact .inl (hkept rfl hpending)
  | @appended before after fallback env now other result hfall he hr =>
    subst hr
    obtain ⟨part, hgrows, -⟩ := (append_effect (writers fallback.writer) codec env other s.disk
      (s.stats fallback.writer)).grows hsound.tail
    refine .inl ⟨closed, torn, post ++ part, ?_, hclosed, hnewline, htorn, hpending⟩
    rw [hgrows.journal, hjournal, append_assoc, cons_append]
  | declined => exact .inl (hkept rfl hpending)
  | opened hbegin =>
    obtain ⟨-, hrun, -⟩ := Spool.beginReplay_eq_ok hbegin
    refine .inl (hkept rfl ?_)
    rintro run ⟨⟩
    rw [hrun]
    refine .ahead (nil_append closed).symm rfl hclosed ?_
    rw [hjournal]
    simp
  | readFailed hreplay =>
    refine .inl (hkept rfl ?_)
    rintro run ⟨⟩
    exact .unreadable (Option.some_ne_none _)
  | passed hreplay hscan hread =>
    refine .inl (hkept rfl ?_)
    rintro run ⟨⟩
    exact (hpending _ hreplay).pass (hsound.reading _ hreplay).1 hjournal hline hnewline hscan hread
  | @delivered run token consumed key record err primary hreplay hscan hread hp =>
    rcases (hpending _ hreplay).deliver err (hsound.reading _ hreplay).1 hjournal hkind hline
      hnewline htorn hscan hread with hstill | ⟨rfl, rfl⟩
    · refine .inl (hkept rfl ?_)
      rintro run ⟨⟩
      exact hstill
    · exact .inr rfl
  | @concluded run statErr removeErr hreplay hscan =>
    have hdisk := (hpending run hreplay).conclude (hsound.reading run hreplay).1 hjournal hscan
      statErr removeErr
    exact .inl (hkept hdisk nofun)
  | _ => exact .inl (hkept rfl nofun)

theorem Spool.Holds.reaches (hreaches : Spool.Reaches codec primary writers s events later) :
    later.Holds codec line ∨ .delivered entry.payload none ∈ events := by
  induction hreaches with
  | refl => exact .inl hholds
  | step hstep _ ih =>
    rcases hholds.step hsound hkind hline hstep with hnext | rfl
    · exact (ih hnext (hsound.step hstep)).imp_right (mem_cons_of_mem _)
    · exact .inr mem_cons_self

end

end

theorem Spool.holds_of_grows (hsound : s.Sound codec)
    (hgrows : s.disk.Grows (line ++ [newline]) next.disk) (hreplay : next.replay = s.replay) :
    next.Holds codec line := by
  obtain ⟨closed, torn, hj, hc, hn, htorn⟩ := hsound.tail
  refine ⟨closed, torn, [], ?_, hc, hn, htorn, ?_⟩
  · rw [hgrows.journal, hj, append_assoc, append_assoc, append_assoc]
  · intro run hrun
    rw [hreplay] at hrun
    have hsize := (hsound.reading run hrun).2
    rw [hj] at hsize
    exact .older hsize

def Spool.InJournal (codec : Codec) (s : Spool σ) (entry : SpoolRecord) : Prop :=
  ∃ line, codec.marshal entry = .ok line ∧ line ++ [newline] <:+: s.disk.journal

theorem Spool.Holds.inJournal (hholds : s.Holds codec line)
    (hline : codec.marshal entry = .ok line) :
    s.InJournal codec entry := by
  obtain ⟨closed, torn, post, hj, -⟩ := hholds
  refine ⟨line, hline, closed ++ torn, post, ?_⟩
  rw [hj]
  simp

theorem Spool.length_step {event : SpoolEvent} {cap bound : Nat} (hcap : 0 < cap)
    (hwrites : ∀ writer, (writers writer).maxBytes = cap) (hbound : cap ≤ bound)
    (hlen : s.disk.journal.length ≤ bound)
    (hstep : Spool.Step codec primary writers s event next) : next.disk.journal.length ≤ bound := by
  cases hstep with
  | @appended before after fallback env now entry result hfall he hr =>
    subst hr
    cases append_effect (writers fallback.writer) codec env entry s.disk
      (s.stats fallback.writer) with
    | failed hdisk => simpa [hdisk.journal] using hlen
    | refused hdisk => simpa [hdisk.journal] using hlen
    | wrote hline hpart hroom hdisk =>
      rw [hwrites] at hroom
      rw [hdisk.journal, length_append]
      exact (Nat.add_le_add_left hpart.length_le _).trans ((hroom hcap).trans hbound)
  | @concluded run statErr removeErr hreplay hscan =>
    rcases run.conclude_cases statErr removeErr s.disk with hkept | ⟨-, -, -, -, hremoved⟩
    · simpa [hkept] using hlen
    · simp [hremoved, Disk.journal]
  | _ => exact hlen

theorem Spool.length_reaches {events : List SpoolEvent} {cap bound : Nat} (hcap : 0 < cap)
    (hwrites : ∀ writer, (writers writer).maxBytes = cap) (hbound : cap ≤ bound)
    (hlen : s.disk.journal.length ≤ bound)
    (hreaches : Spool.Reaches codec primary writers s events later) :
    later.disk.journal.length ≤ bound := by
  induction hreaches with
  | refl => exact hlen
  | step hstep _ ih => exact ih (Spool.length_step hcap hwrites hbound hlen hstep)

theorem Spool.Step.append_inv {writer : Nat} {err : Option String}
    (h : Spool.Step codec primary writers s (.appended writer entry err) next) :
    AppendEffect (writers writer) codec entry s.disk (s.stats writer)
        ⟨err, next.disk, next.stats writer⟩ ∧
      next.replay = s.replay ∧ entry.kind = entry.payload.1.name := by
  generalize he : SpoolEvent.appended writer entry err = event at h
  cases h with
  | @appended before after fallback env now other result hfall hentry hr =>
    injection he with hw ho herr
    subst hw ho herr hr
    refine ⟨?_, rfl, by rw [hentry]; rfl⟩
    simp only [Function.update_self]
    exact append_effect (writers fallback.writer) codec env entry s.disk (s.stats fallback.writer)
  | _ => cases he

/-- No replay runs and the journal, if there is one, consists of whole lines. -/
def Spool.Settled (s : Spool σ) : Prop := Closed newline s.disk.journal ∧ s.replay = none

theorem Spool.Settled.sound (h : s.Settled) : s.Sound codec :=
  ⟨endsTorn_of_closed h.1, fun run hrun => by rw [h.2] at hrun; cases hrun⟩

/-- An acknowledged record is in the journal or has been replayed, at every later
moment; a record that is neither written nor reported as failed is counted as
dropped; and the journal stays within a cap that its writers share. -/
theorem audit_records_kept (codec : Codec) (primary : PrimaryWriter σ)
    (writers : Nat → SpoolWriter) {initial : Spool σ} (hinitial : initial.Settled) :
    (∀ before s writer entry next after later,
      Spool.Reaches codec primary writers initial before s →
      Spool.Step codec primary writers s (.appended writer entry none) next →
      Spool.Reaches codec primary writers next after later →
        ((next.stats writer).droppedWrites = (s.stats writer).droppedWrites →
          later.InJournal codec entry ∨ .delivered entry.payload none ∈ after) ∧
        ((∃ line, codec.marshal entry = .ok line ∧
            next.disk.journal = s.disk.journal ++ (line ++ [newline])) ∨
          (next.stats writer).droppedWrites = (s.stats writer).droppedWrites + 1)) ∧
    ∀ cap, 0 < cap → (∀ writer, (writers writer).maxBytes = cap) → ∀ events later,
      Spool.Reaches codec primary writers initial events later →
        later.disk.journal.length ≤ max cap initial.disk.journal.length := by
  constructor
  · intro before s writer entry next after later hb hstep hafter
    have hsound : s.Sound codec := hinitial.sound.reaches hb
    have hnext := hsound.step hstep
    obtain ⟨he, hreplay, hkind⟩ := hstep.append_inv
    cases he with
    | failed _ hfail => exact absurd rfl hfail
    | refused hdisk hstats =>
      refine ⟨?_, .inr hstats⟩
      intro hsame
      exact absurd (hsame.symm.trans hstats) (Nat.ne_add_one _)
    | wrote hline hpart hroom hdisk hstats hc =>
      obtain rfl := hc rfl
      refine ⟨?_, .inl ⟨_, hline, hdisk.journal⟩⟩
      intro _
      have hholds := Spool.holds_of_grows hsound hdisk hreplay
      rcases hholds.reaches hnext hkind hline hafter with hstill | hd
      · exact .inl (hstill.inJournal hline)
      · exact .inr hd
  · intro cap hcap hw events later hr
    exact Spool.length_reaches hcap hw (le_max_left _ _) (le_max_right _ _) hr

def braces : Bytes := [123, closingBrace]

open Classical in
noncomputable def soleCodec (entry : SpoolRecord) : Codec where
  marshal other := if other = entry then .ok braces else .error "unsupported value"
  unmarshal token := if token = braces then some ⟨entry.kind, entry.key, []⟩ else none
  unmarshalPayload kind _ :=
    if h : entry.payload.1 = kind then some (h ▸ entry.payload.2) else none
  newline_not_mem := by
    intro other line h
    split at h
    · cases h
      decide
    · cases h
  getLast_marshal := by
    intro other line h
    split at h
    · cases h
      rfl
    · cases h
  unmarshal_marshal := by
    intro other line h
    split at h
    · rename_i hother
      cases h
      subst hother
      refine ⟨[], if_pos rfl, ?_⟩
      intro payload hpayload
      rw [dif_pos rfl] at hpayload
      exact (Option.some.inj hpayload).symm
    · cases h
  unmarshal_torn := by
    intro torn other line _ hne h
    split at h
    · cases h
      exact if_neg fun hsame => hne (List.append_left_eq_self.mp hsame)
    · cases h

theorem marshal_soleCodec (entry : SpoolRecord) :
    (soleCodec entry).marshal entry = .ok braces := if_pos rfl

theorem readLine_soleCodec (hkind : entry.kind = entry.payload.1.name) :
    (soleCodec entry).readLine braces = .entry entry.key entry.payload := by
  have hp : (soleCodec entry).unmarshalPayload entry.payload.1 [] = some entry.payload.2 := by
    simp [soleCodec]
  have hu : (soleCodec entry).unmarshal braces = some ⟨entry.kind, entry.key, []⟩ := by
    simp [soleCodec]
  unfold Codec.readLine
  rw [if_neg (by decide), hu]
  simp [Codec.replayRecord, hkind, Kind.ofName_name, hp]

def anyAnswer : PrimaryWriter Unit := fun _ _ _ _ => True

def batteryNotice : Record := ⟨.powerEvent, { eventID := "event-1" }⟩

def noticeEntry : SpoolRecord := spoolRecord batteryNotice "offline" 5

def cappedWriter : SpoolWriter := { directory := "/var/lib/nut-operator", maxBytes := 8 }

theorem append_notice (write : WriteOutcome) (disk : Disk) (stats : SpoolStats) :
    cappedWriter.append (soleCodec noticeEntry) { write := write } noticeEntry disk stats =
      cappedWriter.appendLine { write := write } (braces ++ [newline]) "offline"
        (disk.openAppend 0 0).1 (disk.openAppend 0 0).2 stats := by
  simp only [SpoolWriter.append, marshal_soleCodec]
  rfl

def soleJournal : Disk := (({} : Disk).openAppend 0 0).2.extend 0 (braces ++ [newline]) 0

theorem reaches_drained (hkind : entry.kind = entry.payload.1.name) (hdisk : s.disk = soleJournal)
    (hidle : s.replay = none) (after : σ) (hprimary : primary s.primary entry.payload none after) :
    Spool.Reaches (soleCodec entry) primary writers s
      [.opened, .delivered entry.payload none, .returned { read := 1, replayed := 1 } none]
      { s with disk := { soleJournal with path := none }, primary := after } := by
  obtain ⟨_, stats, fallbacks, _, before⟩ := s
  cases hdisk
  cases hidle
  refine .step (@Spool.Step.opened _ _ _ _ _ "/var/lib/nut-operator" none none none
    { snapshot := ⟨0, 3, 0⟩, limit := 3 } rfl) ?_
  refine .step (@Spool.Step.delivered _ _ _ _ _ _ braces 3 _ _ _ _ rfl rfl
    (readLine_soleCodec hkind) hprimary) ?_
  exact .step (@Spool.Step.concluded _ _ _ _ _
    { snapshot := ⟨0, 3, 0⟩, limit := 3, offset := 3, stats := { read := 1, replayed := 1 } }
    none none rfl rfl) (.refl _)

/-- The primary is offline, the notice goes to the journal, and a replay hands it on. -/
theorem audit_records_kept_offline :
    ∃ s next later : Spool Unit,
      Spool.Reaches (soleCodec noticeEntry) anyAnswer (fun _ => cappedWriter) { primary := () }
          [.wrote 0 batteryNotice (some "offline")] s ∧
        Spool.Step (soleCodec noticeEntry) anyAnswer (fun _ => cappedWriter) s
          (.appended 0 noticeEntry none) next ∧
        Spool.Reaches (soleCodec noticeEntry) anyAnswer (fun _ => cappedWriter) next
          [.opened, .delivered batteryNotice none, .returned { read := 1, replayed := 1 } none]
          later ∧
        (later.InJournal (soleCodec noticeEntry) noticeEntry ∨
          SpoolEvent.delivered batteryNotice none ∈
            [.opened, .delivered batteryNotice none,
              .returned { read := 1, replayed := 1 } none]) ∧
        next.disk.journal.length ≤ max 8 0 := by
  have hsettled : Spool.Settled { primary := () } := ⟨closed_nil, rfl⟩
  have happend : (⟨none, soleJournal, ⟨1, "offline", cappedWriter.path, 0, 3⟩⟩ : Appended) =
      cappedWriter.append (soleCodec noticeEntry) {} noticeEntry {} {} := by
    rw [append_notice]
    rfl
  have hbefore : Spool.Reaches (soleCodec noticeEntry) anyAnswer (fun _ => cappedWriter)
      { primary := () } [.wrote 0 batteryNotice (some "offline")]
      { primary := (), fallbacks := [⟨0, batteryNotice, "offline"⟩] } :=
    .step (.wrote trivial) (.refl _)
  have hstep := @Spool.Step.appended _ (soleCodec noticeEntry) anyAnswer (fun _ => cappedWriter)
    { primary := (), fallbacks := [⟨0, batteryNotice, "offline"⟩] } [] []
    ⟨0, batteryNotice, "offline"⟩ {} 5 _ _ rfl rfl happend
  have hkept := audit_records_kept (soleCodec noticeEntry) anyAnswer (fun _ => cappedWriter)
    hsettled
  refine ⟨_, _, _, hbefore, hstep, reaches_drained rfl rfl rfl () trivial, ?_, ?_⟩
  · exact (hkept.1 _ _ _ _ _ _ _ hbefore hstep (reaches_drained rfl rfl rfl () trivial)).1 rfl
  · exact hkept.2 8 (by decide) (fun _ => rfl) _ _ (hbefore.trans (.step hstep (.refl _)))

/-- The journal consists of whole lines, each of which the scanner takes. -/
def Readable (journal : Bytes) : Prop :=
  ∃ lines : List Bytes, journal = lines.flatMap (· ++ [newline]) ∧
    ∀ line ∈ lines, newline ∉ line ∧ line.length < maxLineBytes

/-- Where the lines start that a replay of a whole journal comes to. -/
inductive LineStart (journal : Bytes) : Nat → Prop where
  | first : LineStart journal 0
  | next {offset consumed : Nat} {token : Bytes} (hstart : LineStart journal offset)
      (hscan : scan (journal.drop offset) none = .line token consumed) :
      LineStart journal (offset + consumed)

/-- The record is handed on from a line that starts at the offset. -/
def Codec.HandsOn (codec : Codec) (journal : Bytes) (offset : Nat) (record : Record) : Prop :=
  LineStart journal offset ∧ ∃ token consumed key,
    scan (journal.drop offset) none = .line token consumed ∧
      codec.readLine token = .entry key record

/-- Appends one after the other, each of which may fail anywhere. -/
inductive Appends (codec : Codec) (disk : Disk) : Disk → Prop where
  | none : Appends codec disk disk
  | one {mid : Disk} (happends : Appends codec disk mid) (writer : SpoolWriter)
      (env : AppendEnvironment) (entry : SpoolRecord) (stats : SpoolStats) :
      Appends codec disk (writer.append codec env entry mid stats).disk

section

variable {journal token : Bytes} {offset consumed : Nat} {record : Record} {event : SpoolEvent}
  {events : List SpoolEvent}

theorem ReplayRun.scan_undisturbed (hpath : disk.path = some run.snapshot.inode)
    (hjournal : journal <+: disk.journal) (hlimit : run.limit = journal.length)
    (hread : run.readErr = none) : run.scan disk = Audit.scan (journal.drop run.offset) none := by
  rw [ReplayRun.scan, ReplayRun.unread, ← Disk.journal_of_path hpath, hlimit, hread,
    ← prefix_iff_eq_take.mp hjournal]

def Follows (journal : Bytes) (offset next : Nat) : Prop :=
  ∃ token consumed, scan (journal.drop offset) none = .line token consumed ∧
    next = offset + consumed

theorem LineStart.follows (h : LineStart journal offset) :
    Relation.ReflTransGen (Follows journal) 0 offset := by
  induction h with
  | first => exact .refl
  | next _ hscan ih => exact ih.tail ⟨_, _, hscan, rfl⟩

/-- A replay that reads the journal has yet to come to the line at the offset. -/
structure ReplayRun.Towards (run : ReplayRun) (journal : Bytes) (offset : Nat) : Prop where
  limit : run.limit = journal.length
  readErr : run.readErr = none
  follows : Relation.ReflTransGen (Follows journal) run.offset offset

def Spool.Replaying (journal : Bytes) (offset : Nat) (s : Spool σ) : Prop :=
  journal <+: s.disk.journal ∧ ∃ run, s.replay = some run ∧ run.Towards journal offset

theorem ReplayRun.Towards.advance (h : run.Towards journal offset)
    (hscan : run.scan disk = .line token consumed) (hpath : disk.path = some run.snapshot.inode)
    (hjournal : journal <+: disk.journal) (hands : codec.HandsOn journal offset record) :
    (∃ key, codec.readLine token = .entry key record) ∨
      ∀ later : ReplayRun, later.limit = run.limit → later.readErr = run.readErr →
        later.offset = run.offset + consumed → later.Towards journal offset := by
  rw [ReplayRun.scan_undisturbed hpath hjournal h.limit h.readErr] at hscan
  rcases h.follows.cases_head with rfl | ⟨next, ⟨_, _, hnext, rfl⟩, hrest⟩
  · obtain ⟨-, _, _, key, hthere, hline⟩ := hands
    cases hscan.symm.trans hthere
    exact .inl ⟨key, hline⟩
  · cases hscan.symm.trans hnext
    refine .inr fun later hlimit hread hoffset => ⟨hlimit.trans h.limit, hread.trans h.readErr, ?_⟩
    rwa [hoffset]

section

variable (h : s.Replaying journal offset) (hsound : s.Sound codec)
  (hands : codec.HandsOn journal offset record)
include h hsound hands

theorem Spool.Replaying.step (hstep : Spool.Step codec primary writers s event next)
    (hread : event ≠ .readFailed) (hreturned : ∀ stats error, event ≠ .returned stats error) :
    (∃ error, event = .delivered record error) ∨ next.Replaying journal offset := by
  obtain ⟨hjournal, run, hrun, htowards⟩ := h
  have hpath := (hsound.reading run hrun).1
  cases hstep with
  | wrote => exact .inr ⟨hjournal, run, hrun, htowards⟩
  | @appended before after fallback env now entry result hfallbacks hentry hresult =>
    subst hresult
    obtain ⟨part, hgrows, -⟩ := (append_effect (writers fallback.writer) codec env entry s.disk
      (s.stats fallback.writer)).grows hsound.tail
    refine .inr ⟨?_, run, hrun, htowards⟩
    rw [hgrows.journal]
    exact hjournal.trans (prefix_append _ _)
  | opened hbegin =>
    simp only [Spool.beginReplay, hrun, Option.isSome_some, if_true] at hbegin
    grind
  | readFailed => exact absurd rfl hread
  | passed hreplay hscan hline =>
    cases hrun.symm.trans hreplay
    rcases htowards.advance hscan hpath hjournal hands with ⟨key, hentry⟩ | hnext
    · exact absurd hentry (hline key record)
    · refine .inr ⟨hjournal, _, rfl, hnext _ ?_ ?_ ?_⟩ <;> cases codec.readLine _ <;> rfl
  | @delivered _ _ _ _ _ error _ hreplay hscan hline =>
    cases hrun.symm.trans hreplay
    rcases htowards.advance hscan hpath hjournal hands with ⟨key, hentry⟩ | hnext
    · cases hline.symm.trans hentry
      exact .inl ⟨error, rfl⟩
    · refine .inr ⟨hjournal, _, rfl, hnext _ ?_ ?_ ?_⟩ <;> cases error <;> rfl
  | _ => exact absurd rfl (hreturned _ _)

theorem Spool.Replaying.reaches (hreaches : Spool.Reaches codec primary writers s events later)
    (hread : .readFailed ∉ events) (hreturned : ∀ stats error, .returned stats error ∉ events) :
    (∃ error, .delivered record error ∈ events) ∨ later.Replaying journal offset := by
  induction hreaches with
  | refl => exact .inr h
  | step hstep _ ih =>
    rw [mem_cons, not_or] at hread
    simp only [mem_cons, not_or] at hreturned
    rcases h.step hsound hands hstep (Ne.symm hread.1)
      (fun stats error => Ne.symm (hreturned stats error).1) with ⟨error, rfl⟩ | hnext
    · exact .inl ⟨error, mem_cons_self⟩
    · exact (ih hnext (hsound.step hstep) hread.2
        fun stats error => (hreturned stats error).2).imp_left
          fun ⟨error, hmem⟩ => ⟨error, mem_cons_of_mem _ hmem⟩

end

/-- A replay that is not cancelled and reads to the end delivers every record that the journal
hands on, whatever is appended meanwhile. -/
theorem Spool.replay_delivers (hsound : s.Sound codec)
    (hopened : Spool.Step codec primary writers s .opened next)
    (hreaches : Spool.Reaches codec primary writers next events later)
    (hread : .readFailed ∉ events) (hreturned : ∀ stats error, .returned stats error ∉ events)
    (hreplay : later.replay = some run) (hended : run.scan later.disk = .ended)
    (hands : codec.HandsOn s.disk.journal offset record) :
    ∃ error, .delivered record error ∈ events := by
  have hnext := hsound.step hopened
  cases hopened with
  | opened hbegin =>
  obtain ⟨-, hfresh, -⟩ := Spool.beginReplay_eq_ok hbegin
  refine (Spool.Replaying.reaches ⟨prefix_rfl, _, rfl, ?_⟩ hnext hands hreaches hread
    hreturned).resolve_right ?_
  · rw [hfresh]
    exact ⟨rfl, rfl, hands.1.follows⟩
  · rintro ⟨hjournal, _, hrun, htowards⟩
    cases hrun.symm.trans hreplay
    have hpath := ((hnext.reaches hreaches).reading run hreplay).1
    rw [ReplayRun.scan_undisturbed hpath hjournal htowards.limit htowards.readErr] at hended
    rcases htowards.follows.cases_head with rfl | ⟨_, ⟨_, _, hscan, -⟩, -⟩
    · obtain ⟨-, _, _, _, hscan, -⟩ := hands
      cases hended.symm.trans hscan
    · cases hended.symm.trans hscan

end

theorem lineStart_flatMap {lines : List Bytes}
    (h : ∀ line ∈ lines, newline ∉ line ∧ line.length < maxLineBytes) (rest : Bytes) :
    LineStart (lines.flatMap (· ++ [newline]) ++ rest)
      (lines.flatMap (· ++ [newline])).length := by
  induction lines using reverseRecOn generalizing rest with
  | nil => exact .first
  | append_singleton lines line ih =>
    obtain ⟨hlines, hline⟩ := forall_mem_append.mp h
    obtain ⟨hn, hs⟩ := hline line (mem_singleton_self line)
    have hstart := ih hlines (line ++ newline :: rest)
    have hscan := (@scan_line_iff line rest none _ _ hn).mpr ⟨hs, rfl, rfl⟩
    simpa [Nat.add_assoc] using hstart.next (by rwa [drop_left])

theorem LineStart.readable {journal : Bytes} {offset : Nat} (h : LineStart journal offset)
    (hle : offset ≤ journal.length) : Readable (journal.take offset) := by
  induction h with
  | first => exact ⟨[], rfl, forall_mem_nil _⟩
  | @next offset consumed token _ hscan ih =>
    obtain ⟨lines, hlines, hfits⟩ := ih (by omega)
    obtain ⟨-, -, rfl, hshort⟩ := scan_eq_line hscan
    refine ⟨lines ++ [firstLine newline (journal.drop offset)], ?_, ?_⟩
    · rw [take_add, hlines, take_firstLine (by rw [length_drop]; omega)]
      simp
    · exact forall_mem_append.mpr ⟨hfits,
        forall_mem_singleton.mpr ⟨separator_not_mem_firstLine, hshort⟩⟩

theorem Appends.journal_prefix {later : Disk} (h : Appends codec disk later) :
    disk.journal <+: later.journal := by
  induction h with
  | none => exact prefix_rfl
  | @one mid _ writer env entry stats ih =>
    rcases append_effect writer codec env entry mid stats with
      hdisk | hdisk | ⟨-, -, -, hdisk, -, -⟩
    all_goals
      rw [hdisk.journal]
      exact ih.trans (prefix_append _ _)

/-- An acknowledged record is handed on as one of its own exactly when it was appended
to whole lines that the scanner takes, like its own. -/
theorem acknowledged_record_handed_on_iff (codec : Codec) (writer : SpoolWriter)
    (env : AppendEnvironment) (entry : SpoolRecord) (before final : Disk) (stats : SpoolStats)
    (hacknowledged : (writer.append codec env entry before stats).error = none)
    (hkept : (writer.append codec env entry before stats).stats.droppedWrites =
      stats.droppedWrites)
    (hafter : Appends codec (writer.append codec env entry before stats).disk final) :
    codec.HandsOn final.journal before.journal.length entry.payload ↔
      Readable before.journal ∧ ∃ line key, codec.marshal entry = .ok line ∧
        line.length < maxLineBytes ∧ codec.readLine line = .entry key entry.payload := by
  obtain ⟨post, hpost⟩ := hafter.journal_prefix
  cases append_effect writer codec env entry before stats with
  | failed _ hfail => exact absurd hacknowledged hfail
  | refused _ hdrop => exact absurd (hkept.symm.trans hdrop) (Nat.ne_add_one _)
  | @wrote line part hline _ _ hdisk _ hc =>
  obtain rfl := hc hacknowledged
  have hfinal : final.journal = before.journal ++ (line ++ newline :: post) := by
    simp [← hpost, hdisk.journal]
  have htoken : dropCarriageReturn line = line := dropCarriageReturn_marshal hline []
  simp only [Codec.HandsOn, hfinal, drop_left, scan_line_iff (codec.newline_not_mem hline), htoken]
  constructor
  · rintro ⟨hstart, _, _, key, ⟨hs, rfl, -⟩, hread⟩
    have hwhole := hstart.readable (by simp)
    rw [take_left] at hwhole
    exact ⟨hwhole, _, key, hline, hs, hread⟩
  · rintro ⟨⟨lines, hlines, hfits⟩, other, key, ho, hs, hread⟩
    obtain rfl := Except.ok.inj (hline.symm.trans ho)
    rw [hlines]
    exact ⟨lineStart_flatMap hfits _, _, _, key, ⟨hs, rfl, rfl⟩, hread⟩

theorem notice_handed_on : (soleCodec noticeEntry).HandsOn
    (cappedWriter.append (soleCodec noticeEntry) {} noticeEntry {} {}).disk.journal 0
    batteryNotice :=
  (acknowledged_record_handed_on_iff (soleCodec noticeEntry) cappedWriter {} noticeEntry {} _ {}
    (by rw [append_notice]; rfl) (by rw [append_notice]; rfl) .none).mpr
      ⟨⟨[], rfl, forall_mem_nil _⟩, braces, noticeEntry.key, marshal_soleCodec _, by decide,
        readLine_soleCodec rfl⟩

/-- A full volume stops one append after its first byte. The next one succeeds, on the
same line, and no replay hands it on. -/
theorem torn_write_hides_next_record : ∃ torn kept : Appended,
    torn = cappedWriter.append (soleCodec noticeEntry)
        { write := .failed 1 "no space left on device" } noticeEntry {} {} ∧
      torn.error.isSome ∧
      kept = cappedWriter.append (soleCodec noticeEntry) {} noticeEntry torn.disk torn.stats ∧
      kept.error = none ∧ kept.stats.droppedWrites = torn.stats.droppedWrites ∧
      ∀ offset record, ¬(soleCodec noticeEntry).HandsOn kept.disk.journal offset record := by
  refine ⟨_, _, rfl, by rw [append_notice]; rfl, rfl, ?_⟩
  rw [append_notice, append_notice]
  refine ⟨rfl, rfl, ?_⟩
  change ∀ offset record, ¬(soleCodec noticeEntry).HandsOn (123 :: braces ++ [newline])
    offset record
  have hread : (soleCodec noticeEntry).readLine (123 :: braces) = .unrecognized := by
    simp [Codec.readLine, soleCodec, braces]
  rintro offset record ⟨hstart, token, consumed, key, hscan, hentry⟩
  have ho : offset = 0 ∨ offset = 4 := by
    clear hscan
    induction hstart with
    | first => exact .inl rfl
    | next _ hscan ih =>
      obtain rfl | rfl := ih
      · cases hscan
        exact .inr rfl
      · cases hscan
  obtain rfl | rfl := ho
  · cases hscan
    cases hread.symm.trans hentry
  · cases hscan

end NutOperator.Audit
