import NutOperator.Audit.Journal
import NutOperator.Audit.Store

/-! What the stored rows say after outages and replays. A row holds what reached the
store last, which is the newest state only when nothing older was waiting. -/
namespace NutOperator.Audit

open Data Execution List

variable {codec : Codec} {writers : Nat → SpoolWriter} {kind : Kind}

def Kind.progress : (kind : Kind) → kind.Payload → Option (Phase × Option Time)
  | .shutdownFlowExecution, execution => some (execution.phase, execution.completedAt)
  | .shutdownFlowExecutionWave, wave => some (wave.phase, wave.completedAt)
  | .shutdownFlowExecutionGroup, group => some (group.phase, group.completedAt)
  | _, _ => none

theorem Kind.progress_onConflict (stored excluded : kind.Payload) :
    kind.progress (kind.onConflict stored excluded) = kind.progress excluded := by
  cases kind <;> rfl

def asKind (kind : Kind) (record : Record) : Option kind.Payload :=
  if h : record.1 = kind then some (h ▸ record.2) else none

theorem eq_of_asKind {record : Record} {payload : kind.Payload}
    (h : asKind kind record = some payload) : record = ⟨kind, payload⟩ := by
  unfold asKind at h
  split at h
  · rename_i hkind
    subst hkind
    rw [← Option.some.inj h]
  · cases h

def Store.writes (store : Store) (kind : Kind) (identity : kind.Identity) : List kind.Payload :=
  (store.inserts.filterMap (asKind kind)).filter fun payload => kind.identity payload = identity

def Store.Consistent (store : Store) : Prop := ∀ kind identity, store.rows kind identity =
    (store.writes kind identity).foldl (fun row excluded => kind.insertRow excluded row) none

theorem consistent_empty : Store.Consistent {} := fun _ _ => rfl

theorem writes_insert_self (store : Store) (excluded : kind.Payload) :
    (store.insert kind excluded).writes kind (kind.identity excluded) =
      store.writes kind (kind.identity excluded) ++ [excluded] := by
  simp [Store.writes, Store.insert, asKind, filter_append]

variable {store : Store}

theorem writes_insert_of_identity_ne {excluded : kind.Payload} {identity : kind.Identity}
    (h : kind.identity excluded ≠ identity) :
    (store.insert kind excluded).writes kind identity = store.writes kind identity := by
  simp [Store.writes, Store.insert, asKind, filter_append, h]

theorem writes_insert_of_kind_ne {other : Kind} {excluded : kind.Payload}
    {identity : other.Identity} (h : kind ≠ other) :
    (store.insert kind excluded).writes other identity = store.writes other identity := by
  simp [Store.writes, Store.insert, asKind, h]

theorem Store.Consistent.insert (h : store.Consistent) (excluded : kind.Payload) :
    (store.insert kind excluded).Consistent := by
  intro other identity
  by_cases hkind : kind = other
  · subst hkind
    by_cases hi : kind.identity excluded = identity
    · subst hi
      rw [writes_insert_self, foldl_append, ← h kind (kind.identity excluded)]
      simp [Store.insert]
    · rw [writes_insert_of_identity_ne hi, ← h kind identity]
      simp [Store.insert, Function.update_of_ne (Ne.symm hi)]
  · rw [writes_insert_of_kind_ne hkind, ← h other identity]
    simp [Store.insert, Function.update_of_ne (Ne.symm hkind)]

theorem Store.Consistent.record {next : Store} {record : Record} {err : Option String}
    (h : store.Consistent) (hrecord : sqlStore store record err next) : next.Consistent := by
  obtain ⟨now, execErr, hrecord⟩ := hrecord
  unfold Store.record at hrecord
  split at hrecord
  · cases hrecord
    exact h
  split at hrecord
  · cases hrecord
    exact h
  · cases hrecord
    exact h.insert _

theorem Store.Consistent.step {s next : Spool Store} {ev : SpoolEvent}
    (h : s.primary.Consistent) (hstep : Spool.Step codec sqlStore writers s ev next) :
    next.primary.Consistent := by
  cases hstep with
  | wrote hp => exact h.record hp
  | delivered _ _ _ hp => exact h.record hp
  | _ => exact h

theorem Store.Consistent.progress_row (h : store.Consistent) (kind : Kind)
    (identity : kind.Identity) :
    (store.rows kind identity).map kind.progress =
      (store.writes kind identity).getLast?.map kind.progress := by
  rw [h kind identity]
  rcases eq_nil_or_concat (store.writes kind identity) with hnil | ⟨before, last, hw⟩
  · rw [hnil]
    rfl
  · rw [hw, concat_eq_append, foldl_append, getLast?_concat]
    cases hrow : before.foldl (fun row excluded => kind.insertRow excluded row) none with
    | none => rfl
    | some stored => exact congrArg some (Kind.progress_onConflict stored last)

def Newest (kind : Kind) (writes : List kind.Payload) (write : kind.Payload) : Prop :=
  write ∈ writes ∧ ∀ other ∈ writes, kind.observedAt other ≤ kind.observedAt write

def Store.Current (store : Store) : Prop :=
  ∀ kind identity row, store.rows kind identity = some row →
    ∃ write, Newest kind (store.writes kind identity) write ∧
      kind.progress row = kind.progress write

theorem current_of_pairwise (h : store.Consistent) (hsorted : ∀ kind identity,
    (store.writes kind identity).Pairwise fun earlier later =>
      kind.observedAt earlier ≤ kind.observedAt later) : store.Current := by
  intro kind identity row hrow
  have hprogress := h.progress_row kind identity
  rw [hrow] at hprogress
  obtain ⟨last, hlast, hsame⟩ := Option.map_eq_some_iff.mp hprogress.symm
  obtain ⟨before, hwrites⟩ := getLast?_eq_some_iff.mp hlast
  refine ⟨last, ⟨by simp [hwrites], ?_⟩, hsame.symm⟩
  intro other hother
  have hpairs := hsorted kind identity
  rw [hwrites] at hother hpairs
  rcases mem_append.mp hother with hmem | hmem
  · exact (pairwise_append.mp hpairs).2.2 other hmem last mem_cons_self
  · rw [mem_singleton.mp hmem]

def Older (record other : Record) : Prop :=
  ∃ kind first second, record = ⟨kind, first⟩ ∧ other = ⟨kind, second⟩ ∧
    kind.identity first = kind.identity second ∧ kind.observedAt first < kind.observedAt second

theorem current_of_inserts (h : store.Consistent)
    (hsorted : store.inserts.Pairwise fun earlier later => ¬ Older later earlier) :
    store.Current := by
  refine current_of_pairwise h fun kind identity => ?_
  have hkind : (store.inserts.filterMap (asKind kind)).Pairwise fun earlier later =>
      ¬ Older ⟨kind, later⟩ ⟨kind, earlier⟩ := by
    refine Pairwise.filterMap _ ?_ hsorted
    intro earlier later hnot first hfirst second hsecond
    rwa [eq_of_asKind hfirst, eq_of_asKind hsecond] at hnot
  refine Pairwise.imp_of_mem ?_ (hkind.filter _)
  intro first second hfirst hsecond hnot
  refine not_lt.mp fun hlt => hnot ⟨kind, second, first, rfl, rfl, ?_, hlt⟩
  have hsame := (mem_filter.mp hfirst).2
  have hother := (mem_filter.mp hsecond).2
  simp only [decide_eq_true_eq] at hsame hother
  exact hother.trans hsame.symm

/-- An object that was not written whole is not read. -/
def Codec.ReadsWhole (codec : Codec) : Prop :=
  ∀ {torn entry line piece}, Torn codec.marshal torn → codec.marshal entry = .ok line →
    piece <+: line → piece ≠ [] → torn ≠ [] ∨ piece ≠ line → codec.unmarshal (torn ++ piece) = none

/-- The record is read where a line starts. -/
def Codec.Reads (codec : Codec) (journal : Bytes) (record : Record) : Prop :=
  ∃ before token after key, journal = before ++ token ++ after ∧ Closed newline before ∧
    newline ∉ token ∧ codec.readLine token = .entry key record

def Spool.Waits (codec : Codec) (s : Spool Store) (record : Record) : Prop :=
  (∃ fallback ∈ s.fallbacks, fallback.record = record) ∨ codec.Reads s.disk.journal record

def SpoolEvent.request : SpoolEvent → Option Record
  | .wrote _ record _ => some record
  | _ => none

def SpoolEvent.arrival : SpoolEvent → Option Record
  | .wrote _ record none => some record
  | .delivered record none => some record
  | _ => none

/-- Runs in which the states of a row are written in their order, and none reaches the store
while an older one waits in a fallback or in the journal. -/
inductive Spool.InOrder (codec : Codec) (writers : Nat → SpoolWriter) :
    List Record → Spool Store → List SpoolEvent → Spool Store → Prop where
  | refl (requested : List Record) (s : Spool Store) : InOrder codec writers requested s [] s
  | step {requested : List Record} {s next later : Spool Store} {event : SpoolEvent}
      {events : List SpoolEvent} (hstep : Spool.Step codec sqlStore writers s event next)
      (hrequest : ∀ record, event.request = some record → record.1.observedAt record.2 ≠ 0 ∧
        ∀ earlier ∈ requested, ¬ Older record earlier)
      (harrival : ∀ record, event.arrival = some record → ∀ other, s.Waits codec other →
        ¬ Older other record)
      (hrest : InOrder codec writers (requested ++ event.request.toList) next events later) :
      InOrder codec writers requested s (event :: events) later

theorem dropCarriageReturn_prefix (token : Bytes) : dropCarriageReturn token <+: token := by
  unfold dropCarriageReturn
  split
  · exact dropLast_prefix token
  · exact prefix_rfl

/-- A replay stands at the start of a line, unless it is past what it can read. -/
structure ReplayRun.AtLine (run : ReplayRun) (journal : Bytes) : Prop where
  limit : run.limit ≤ journal.length
  closed : run.offset ≤ run.limit → Closed newline (journal.take run.offset)

section

variable {run : ReplayRun} {disk : Disk} {token : Bytes} {consumed : Nat}

section

variable (h : run.AtLine disk.journal) (hpath : disk.path = some run.snapshot.inode)
  (hscan : run.scan disk = .line token consumed)
include h hpath hscan

theorem ReplayRun.AtLine.line :
    ∃ first rest, disk.journal.drop run.offset = first ++ rest ∧ newline ∉ first ∧
      token <+: first ∧ run.offset < run.limit ∧ consumed = first.length + 1 ∧
      (run.offset + consumed ≤ run.limit → [newline] <+: rest) := by
  unfold ReplayRun.scan ReplayRun.unread at hscan
  rw [← Disk.journal_of_path hpath, drop_take] at hscan
  obtain ⟨hsome, rfl, rfl, -⟩ := scan_eq_line hscan
  have hprefix := take_prefix (run.limit - run.offset) (disk.journal.drop run.offset)
  generalize hunread : (disk.journal.drop run.offset).take (run.limit - run.offset) = unread at *
  obtain ⟨rest, hrest⟩ : firstLine newline unread <+: disk.journal.drop run.offset :=
    (List.takeWhile_prefix _).trans hprefix
  refine ⟨_, rest, hrest.symm, separator_not_mem_firstLine, dropCarriageReturn_prefix _, ?_, rfl,
    fun hwithin => ?_⟩
  · by_contra hpast
    apply hsome
    rw [← hunread, Nat.sub_eq_zero_of_le (not_lt.mp hpast), take_zero]
  · have hlength : unread.length = run.limit - run.offset := by
      have := h.limit
      rw [← hunread, length_take, length_drop]
      omega
    have hline : unread.take ((firstLine newline unread).length + 1) =
        firstLine newline unread ++ [newline] := take_firstLine (by omega)
    have hended : firstLine newline unread ++ [newline] <+: disk.journal.drop run.offset :=
      hline ▸ (List.take_prefix _ _).trans hprefix
    rw [← hrest] at hended
    exact (prefix_append_right_inj _).mp hended

theorem ReplayRun.AtLine.reads {key : String} {record : Record}
    (hline : codec.readLine token = .entry key record) : codec.Reads disk.journal record := by
  obtain ⟨first, rest, hdrop, hfree, ⟨left, rfl⟩, hwithin, -⟩ := h.line hpath hscan
  refine ⟨disk.journal.take run.offset, token, left ++ rest, key, ?_, h.closed hwithin.le,
    fun hmem => hfree (mem_append_left _ hmem), hline⟩
  rw [append_assoc, ← append_assoc token, ← hdrop, take_append_drop]

theorem ReplayRun.AtLine.next {later : ReplayRun} (hlimit : later.limit = run.limit)
    (hoffset : later.offset = run.offset + consumed) : later.AtLine disk.journal := by
  refine ⟨hlimit ▸ h.limit, fun hwithin => ?_⟩
  obtain ⟨first, rest, hdrop, -, -, -, rfl, hended⟩ := h.line hpath hscan
  rw [hoffset, hlimit] at hwithin
  obtain ⟨more, rfl⟩ := hended hwithin
  rw [hoffset, take_add, hdrop, ← append_assoc, ← length_singleton (a := newline), ← length_append,
    take_left, ← append_assoc]
  exact closed_append_separator _

end

theorem ReplayRun.AtLine.grows {journal part : Bytes} (h : run.AtLine journal) :
    run.AtLine (journal ++ part) := by
  refine ⟨h.limit.trans (by simp), fun hwithin => ?_⟩
  rw [take_append_of_le_length (hwithin.trans h.limit)]
  exact h.closed hwithin

end

theorem readLine_eq_entry {token : Bytes} {key : String} {record : Record}
    (h : codec.readLine token = .entry key record) : token ≠ [] ∧ codec.unmarshal token ≠ none := by
  unfold Codec.readLine at h
  split at h
  · cases h
  · rename_i hsome
    refine ⟨hsome, fun hnone => ?_⟩
    rw [hnone] at h
    cases h

theorem not_reads_nil {record : Record} : ¬ codec.Reads [] record := by
  rintro ⟨before, token, after, key, hjournal, -, -, hread⟩
  obtain ⟨-, rfl, -⟩ : before = [] ∧ token = [] ∧ after = [] := by simpa using hjournal.symm
  exact (readLine_eq_entry hread).1 rfl

/-- What an append adds to the journal is read as the record appended, if at all. -/
theorem Codec.Reads.of_append (hwhole : codec.ReadsWhole) {journal part line : Bytes}
    {entry : SpoolRecord} {record : Record} (htail : EndsTorn codec journal)
    (hkind : entry.kind = entry.payload.1.name) (hline : codec.marshal entry = .ok line)
    (hpart : part <+: line ++ [newline]) (h : codec.Reads (journal ++ part) record) :
    codec.Reads journal record ∨ record = entry.payload := by
  obtain ⟨before, token, after, key, hjournal, hbefore, hfree, hread⟩ := h
  obtain ⟨hsome, hunmarshal⟩ := readLine_eq_entry hread
  rcases append_eq_append_iff.mp hjournal.symm with ⟨mid, rfl, -⟩ | ⟨mid, hmid, rfl⟩
  · exact .inl ⟨before, token, mid, key, rfl, hbefore, hfree, hread⟩
  have hpiece := prefix_line_cases ((prefix_append _ _).trans hpart)
  have hcore : ∀ left, journal = before ++ left → token = left ++ mid →
      codec.Reads journal record ∨ record = entry.payload := by
    rintro left rfl rfl
    obtain ⟨hleft, hmid⟩ := not_or.mp (mt mem_append.mpr hfree)
    obtain ⟨closed, torn, hsplit, hclosed, hnone, htorn⟩ := htail
    obtain ⟨rfl, rfl⟩ := hbefore.eq_of_append hclosed hleft hnone hsplit
    have hprefix : mid <+: line := hpiece.resolve_right fun hall => hmid (by simp [hall])
    by_cases hempty : mid = []
    · subst hempty
      rw [append_nil] at hread
      exact .inl ⟨before, left, [], key, (append_nil _).symm, hbefore, hleft, hread⟩
    by_cases hall : left = [] ∧ mid = line
    · obtain ⟨rfl, rfl⟩ := hall
      exact .inr (readLine_marshal hkind hline .nil hread)
    · exact absurd (hwhole htorn hline hprefix hempty (not_and_or.mp hall)) hunmarshal
  rcases append_eq_append_iff.mp hmid with ⟨left, hleft, htoken⟩ | ⟨extra, rfl, rfl⟩
  · exact hcore left hleft htoken
  rcases eq_nil_or_concat extra with rfl | ⟨front, last, rfl⟩
  · exact hcore [] (by simp) rfl
  -- A line that starts inside of what was added ends with it.
  rw [concat_eq_append] at hbefore hpiece
  obtain ⟨whole, hends⟩ := hbefore.resolve_left (by simp)
  rw [← append_assoc] at hends
  obtain rfl : last = newline := by simpa using (append_inj' hends rfl).2
  rcases hpiece with hpiece | hpiece
  · exact absurd (hpiece.subset (by simp)) (codec.newline_not_mem hline)
  · obtain ⟨start, final, rfl⟩ := (eq_nil_or_concat token).resolve_left hsome
    rw [concat_eq_append, ← append_assoc] at hpiece
    obtain rfl : final = newline := by simpa using (append_inj' hpiece rfl).2
    simp at hfree

theorem inserts_of_record {next : Store} {record : Record} {error : Option String}
    (h : sqlStore store record error next) (hdated : record.1.observedAt record.2 ≠ 0) :
    next.inserts = store.inserts ∨ error = none ∧ next.inserts = store.inserts ++ [record] := by
  obtain ⟨now, execErr, h⟩ := h
  unfold Store.record at h
  split at h
  · cases h
    exact .inl rfl
  split at h
  · cases h
    exact .inl rfl
  · cases h
    refine .inr ⟨rfl, ?_⟩
    rw [Kind.values, if_neg hdated]
    rfl

/-- What is stored was requested, in its order, and nothing that waits is older. -/
structure Spool.Ordered (codec : Codec) (requested : List Record) (s : Spool Store) : Prop where
  sound : s.Sound codec
  reading : ∀ run, s.replay = some run → run.AtLine s.disk.journal
  dated : ∀ record ∈ requested, record.1.observedAt record.2 ≠ 0
  waiting : ∀ record, s.Waits codec record → record ∈ requested
  inserted : ∀ record ∈ s.primary.inserts, record ∈ requested
  behind : ∀ stored ∈ s.primary.inserts, ∀ record, s.Waits codec record → ¬ Older record stored
  sorted : s.primary.inserts.Pairwise fun earlier later => ¬ Older later earlier

section

variable {s next : Spool Store} {requested more : List Record} {event : SpoolEvent}

theorem Spool.Ordered.kept (h : s.Ordered codec requested) (hsound : next.Sound codec)
    (hreading : ∀ run, next.replay = some run → run.AtLine next.disk.journal)
    (hwaits : ∀ record, next.Waits codec record → s.Waits codec record ∨ record ∈ more)
    (hdated : ∀ record ∈ more, record.1.observedAt record.2 ≠ 0)
    (hmore : ∀ record ∈ more, ∀ earlier ∈ requested, ¬ Older record earlier)
    (hinserts : next.primary.inserts = s.primary.inserts) :
    next.Ordered codec (requested ++ more) where
  sound := hsound
  reading := hreading
  dated := forall_mem_append.mpr ⟨h.dated, hdated⟩
  waiting := fun record hwait =>
    mem_append.mpr ((hwaits record hwait).imp_left (h.waiting record))
  inserted := by
    rw [hinserts]
    exact fun record hmem => mem_append_left _ (h.inserted record hmem)
  behind := by
    rw [hinserts]
    intro stored hstored record hwait
    rcases hwaits record hwait with hwait | hmem
    · exact h.behind stored hstored record hwait
    · exact hmore record hmem stored (h.inserted stored hstored)
  sorted := by
    rw [hinserts]
    exact h.sorted

theorem Spool.Ordered.arrived {record : Record} (h : s.Ordered codec requested)
    (hsound : next.Sound codec)
    (hreading : ∀ run, next.replay = some run → run.AtLine next.disk.journal)
    (hwaits : ∀ record, next.Waits codec record → s.Waits codec record)
    (hrequested : record ∈ requested)
    (hnewest : ∀ stored ∈ s.primary.inserts, ¬ Older record stored)
    (hlast : ∀ other, s.Waits codec other → ¬ Older other record)
    (hinserts : next.primary.inserts = s.primary.inserts ++ [record]) :
    next.Ordered codec requested where
  sound := hsound
  reading := hreading
  dated := h.dated
  waiting := fun record hwait => h.waiting record (hwaits record hwait)
  inserted := by
    rw [hinserts]
    exact forall_mem_append.mpr ⟨h.inserted, forall_mem_singleton.mpr hrequested⟩
  behind := by
    rw [hinserts]
    refine forall_mem_append.mpr ⟨fun stored hstored other hwait => ?_, ?_⟩
    · exact h.behind stored hstored other (hwaits other hwait)
    · exact forall_mem_singleton.mpr fun other hwait => hlast other (hwaits other hwait)
  sorted := by
    rw [hinserts, pairwise_append]
    exact ⟨h.sorted, pairwise_singleton _ _, fun stored hstored => forall_mem_singleton.mpr
      (hnewest stored hstored)⟩

theorem Spool.Waits.of_append (hwhole : codec.ReadsWhole) (hsound : s.Sound codec)
    {before after : List Fallback} {fallback : Fallback} {entry : SpoolRecord}
    {writer : SpoolWriter} {stats : SpoolStats} {result : Appended}
    (hfallbacks : s.fallbacks = before ++ fallback :: after)
    (hkind : entry.kind = entry.payload.1.name) (hpayload : entry.payload = fallback.record)
    (heffect : AppendEffect writer codec entry s.disk stats result)
    (hnext : next.fallbacks = before ++ after) (hdisk : next.disk = result.disk) {record : Record}
    (h : next.Waits codec record) : s.Waits codec record := by
  rcases h with ⟨other, hother, hrecord⟩ | hreads
  · refine .inl ⟨other, ?_, hrecord⟩
    rw [hnext] at hother
    rw [hfallbacks]
    exact (mem_append.mp hother).elim (mem_append_left _) fun hmem =>
      mem_append_right _ (mem_cons_of_mem _ hmem)
  · rw [hdisk] at hreads
    cases heffect with
    | failed hgrows => exact .inr (by rwa [hgrows.journal, append_nil] at hreads)
    | refused hgrows => exact .inr (by rwa [hgrows.journal, append_nil] at hreads)
    | wrote hline hpart _ hgrows =>
      rw [hgrows.journal] at hreads
      rcases hreads.of_append hwhole hsound.tail hkind hline hpart with hreads | rfl
      · exact .inr hreads
      · exact .inl ⟨fallback, by simp [hfallbacks], hpayload.symm⟩

theorem Spool.Ordered.unasked (h : s.Ordered codec requested) (hsound : next.Sound codec)
    (hreading : ∀ run, next.replay = some run → run.AtLine next.disk.journal)
    (hwaits : ∀ record, next.Waits codec record → s.Waits codec record)
    (hinserts : next.primary.inserts = s.primary.inserts) : next.Ordered codec requested := by
  rw [← append_nil requested]
  exact h.kept hsound hreading (fun record hwait => .inl (hwaits record hwait)) (forall_mem_nil _)
    (forall_mem_nil _) hinserts

theorem Spool.Ordered.wrote {writer : Nat} {record : Record} {error : Option String}
    (h : s.Ordered codec requested)
    (hstep : Spool.Step codec sqlStore writers s (.wrote writer record error) next)
    (hdated : record.1.observedAt record.2 ≠ 0)
    (hlater : ∀ earlier ∈ requested, ¬ Older record earlier)
    (harrival : error = none → ∀ other, s.Waits codec other → ¬ Older other record) :
    next.Ordered codec (requested ++ [record]) := by
  have hsound := h.sound.step hstep
  cases hstep with
  | wrote hprimary =>
    rcases inserts_of_record hprimary hdated with hnone | ⟨rfl, hinserts⟩
    · refine h.kept hsound h.reading ?_ (by simpa using hdated) (by simpa using hlater) hnone
      rintro other (⟨fallback, hmem, rfl⟩ | hreads)
      · rcases mem_append.mp hmem with hmem | hmem
        · exact .inl (.inl ⟨fallback, hmem, rfl⟩)
        · obtain ⟨message, -, rfl⟩ := Option.map_eq_some_iff.mp (Option.mem_toList.mp hmem)
          exact .inr mem_cons_self
      · exact .inl (.inr hreads)
    · have hasked : s.Ordered codec (requested ++ [record]) :=
        h.kept h.sound h.reading (fun _ hwait => .inl hwait) (by simpa using hdated)
          (by simpa using hlater) rfl
      refine hasked.arrived hsound h.reading (fun other hwait => ?_) (by simp)
        (fun stored hstored => hlater stored (h.inserted stored hstored)) (harrival rfl) hinserts
      rcases hwait with ⟨fallback, hmem, rfl⟩ | hreads
      · exact .inl ⟨fallback, by simpa using hmem, rfl⟩
      · exact .inr hreads

theorem Spool.Ordered.delivered {record : Record} {error : Option String}
    (h : s.Ordered codec requested)
    (hstep : Spool.Step codec sqlStore writers s (.delivered record error) next)
    (harrival : error = none → ∀ other, s.Waits codec other → ¬ Older other record) :
    next.Ordered codec requested := by
  have hsound := h.sound.step hstep
  cases hstep with
  | @delivered run token consumed key _ _ stored hreplay hscan hline hprimary =>
    have hpath := (h.sound.reading run hreplay).1
    have hwait : s.Waits codec record := .inr ((h.reading run hreplay).reads hpath hscan hline)
    have hmem := h.waiting record hwait
    have hreading : ∀ later, some (run.deliver consumed key record error) = some later →
        later.AtLine s.disk.journal := by
      rintro later ⟨⟩
      exact (h.reading run hreplay).next hpath hscan (by cases error <;> rfl)
        (by cases error <;> rfl)
    rcases inserts_of_record hprimary (h.dated record hmem) with hnone | ⟨rfl, hinserts⟩
    · exact h.unasked hsound hreading (fun _ hwait => hwait) hnone
    · exact h.arrived hsound hreading (fun _ hwait => hwait) hmem
        (fun stored hstored => h.behind stored hstored record hwait) (harrival rfl) hinserts

section

variable (hwhole : codec.ReadsWhole) (h : s.Ordered codec requested)
  (hstep : Spool.Step codec sqlStore writers s event next)
include hwhole h hstep

theorem Spool.Ordered.unrequested (hrequest : event.request = none)
    (harrival : ∀ record, event.arrival = some record → ∀ other, s.Waits codec other →
      ¬ Older other record) : next.Ordered codec requested := by
  have hsound := h.sound.step hstep
  cases hstep with
  | wrote => cases hrequest
  | @appended before after fallback env now entry result hfallbacks hentry hresult =>
    have heffect := append_effect (writers fallback.writer) codec env entry s.disk
      (s.stats fallback.writer)
    rw [← hresult] at heffect
    refine h.unasked hsound (fun run hrun => ?_) (fun record hwait => ?_) rfl
    · obtain ⟨part, hgrows, -⟩ := heffect.grows h.sound.tail
      show run.AtLine result.disk.journal
      rw [hgrows.journal]
      exact (h.reading run hrun).grows
    · exact hwait.of_append hwhole h.sound hfallbacks (by rw [hentry]; rfl) (by rw [hentry]; rfl)
        heffect rfl rfl
  | opened hbegin =>
    obtain ⟨-, hrun, -⟩ := Spool.beginReplay_eq_ok hbegin
    refine h.unasked hsound ?_ (fun _ hwait => hwait) rfl
    rintro run ⟨⟩
    rw [hrun]
    exact ⟨le_rfl, fun _ => closed_nil⟩
  | readFailed hreplay hlimit =>
    have hreading := h.reading _ hreplay
    refine h.unasked hsound ?_ (fun _ hwait => hwait) rfl
    rintro run ⟨⟩
    exact ⟨hlimit.trans hreading.limit, fun hwithin => hreading.closed (hwithin.trans hlimit)⟩
  | @passed run token consumed hreplay hscan hline =>
    refine h.unasked hsound ?_ (fun _ hwait => hwait) rfl
    rintro later ⟨⟩
    exact (h.reading run hreplay).next (h.sound.reading run hreplay).1 hscan
      (by cases codec.readLine token <;> rfl) (by cases codec.readLine token <;> rfl)
  | @delivered run token consumed key record error stored hreplay hscan hline hprimary =>
    have hstep : Spool.Step codec sqlStore writers s (.delivered record error) _ :=
      .delivered hreplay hscan hline hprimary
    exact h.delivered hstep (by rintro rfl; exact harrival record rfl)
  | @concluded run statErr removeErr hreplay hscan =>
    refine h.unasked hsound (by rintro run ⟨⟩) (fun record hwait => ?_) rfl
    rcases run.conclude_cases statErr removeErr s.disk with hkept | ⟨-, -, -, -, hremoved⟩
    · rwa [Spool.Waits, hkept] at hwait
    · refine hwait.imp_right fun hreads => ?_
      simp only [hremoved, Disk.journal] at hreads
      exact absurd hreads not_reads_nil
  | declined => exact h
  | _ => exact h.unasked hsound (by rintro run ⟨⟩) (fun _ hwait => hwait) rfl

theorem Spool.Ordered.step
    (hrequest : ∀ record, event.request = some record → record.1.observedAt record.2 ≠ 0 ∧
      ∀ earlier ∈ requested, ¬ Older record earlier)
    (harrival : ∀ record, event.arrival = some record → ∀ other, s.Waits codec other →
      ¬ Older other record) : next.Ordered codec (requested ++ event.request.toList) := by
  cases event with
  | wrote writer record error =>
    obtain ⟨hdated, hlater⟩ := hrequest record rfl
    exact h.wrote hstep hdated hlater (by rintro rfl; exact harrival record rfl)
  | _ =>
    exact (append_nil requested).symm ▸ h.unrequested hwhole hstep rfl harrival

end

theorem Spool.InOrder.current {events : List SpoolEvent} {later : Spool Store}
    (hwhole : codec.ReadsWhole) (h : Spool.InOrder codec writers requested s events later)
    (hordered : s.Ordered codec requested) (hconsistent : s.primary.Consistent) :
    later.primary.Current := by
  induction h with
  | refl requested s => exact current_of_inserts hconsistent hordered.sorted
  | step hstep hrequest harrival _ ih =>
    exact ih (hordered.step hwhole hstep hrequest harrival) (hconsistent.step hstep)

end

theorem ordered_empty : Spool.Ordered codec [] ({ primary := {} } : Spool Store) where
  sound := Spool.Settled.sound ⟨closed_nil, rfl⟩
  reading := nofun
  dated := forall_mem_nil _
  waiting := by
    rintro record (⟨fallback, hmem, -⟩ | hreads)
    · cases hmem
    · exact absurd hreads not_reads_nil
  inserted := forall_mem_nil _
  behind := forall_mem_nil _
  sorted := .nil

def runningExecution : ShutdownFlowExecution :=
  { executionID := "execution-1", deduplicationKey := "", observedAt := 1, shutdownFlow := "rack"
    triggerDecisionID := "", mode := "Enforce", phase := .running, reason := "TriggerEligible"
    planConfigHash := "plan", inputHash := "", startedAt := some 1, dryRun := false
    approved := true, approvalEvidence := [], revalidation := [], details := [] }

def completedExecution : ShutdownFlowExecution :=
  { runningExecution with observedAt := 2, phase := .completed, completedAt := some 2 }

def runningRecord : Record := ⟨.shutdownFlowExecution, runningExecution⟩

def completedRecord : Record := ⟨.shutdownFlowExecution, completedExecution⟩

def refusal : String := s!"record {runningRecord.1.label runningRecord.2}: offline"

def runningEntry : SpoolRecord := spoolRecord runningRecord refusal 1

def rackWriter : SpoolWriter := { directory := "/var/lib/nut-operator" }

def completedStore : Store := Store.insert {} .shutdownFlowExecution completedExecution

def revertedStore : Store := completedStore.insert .shutdownFlowExecution runningExecution

theorem sqlStore_running (store : Store) :
    sqlStore store runningRecord none (store.insert .shutdownFlowExecution runningExecution) :=
  ⟨1, none, rfl⟩

theorem sqlStore_completed (store : Store) :
    sqlStore store completedRecord none (store.insert .shutdownFlowExecution completedExecution) :=
  ⟨2, none, rfl⟩

theorem sqlStore_offline (store : Store) : sqlStore store runningRecord (some refusal) store :=
  ⟨1, some "offline", rfl⟩

theorem append_runningEntry :
    (⟨none, soleJournal, ⟨1, refusal, rackWriter.path, 0, 3⟩⟩ : Appended) =
      rackWriter.append (soleCodec runningEntry) {} runningEntry {} {} := by
  simp only [SpoolWriter.append, marshal_soleCodec]
  rfl

/-- The running record is journalled during an outage, the completion is written
directly after it, and a replay then delivers what was journalled. -/
theorem reverting_run :
    Spool.Reaches (soleCodec runningEntry) sqlStore (fun _ => rackWriter) { primary := {} }
      [.wrote 0 runningRecord (some refusal), .appended 0 runningEntry none,
        .wrote 0 completedRecord none, .opened, .delivered runningRecord none,
        .returned { read := 1, replayed := 1 } none]
      { disk := { soleJournal with path := none }
        stats := Function.update (fun _ => {}) 0 ⟨1, refusal, rackWriter.path, 0, 3⟩
        primary := revertedStore } := by
  refine .step (.wrote (sqlStore_offline _)) ?_
  refine .step (@Spool.Step.appended _ _ _ _ _ [] [] ⟨0, runningRecord, refusal⟩ {} 1 _
    ⟨none, soleJournal, ⟨1, refusal, rackWriter.path, 0, 3⟩⟩ rfl rfl append_runningEntry) ?_
  exact .step (.wrote (sqlStore_completed _)) (reaches_drained rfl rfl rfl _ (sqlStore_running _))

theorem Spool.InOrder.silent {codec : Codec} {writers : Nat → SpoolWriter}
    {requested : List Record} {s next later : Spool Store} {event : SpoolEvent}
    {events : List SpoolEvent} (hstep : Spool.Step codec sqlStore writers s event next)
    (hrequest : event.request = none) (harrival : event.arrival = none)
    (hrest : InOrder codec writers requested next events later) :
    InOrder codec writers requested s (event :: events) later := by
  refine .step hstep ?_ ?_ ?_ <;> simp_all

theorem not_older_self (record : Record) : ¬ Older record record := by
  rintro ⟨kind, first, second, rfl, hsame, -, hlt⟩
  cases hsame
  exact lt_irrefl _ hlt

theorem readsWhole_soleCodec (entry : SpoolRecord) : (soleCodec entry).ReadsWhole := by
  intro torn other line piece _ hline hprefix hsome hpartial
  refine if_neg fun hbraces => ?_
  have hother : other = entry := by
    by_contra hne
    cases (if_neg hne).symm.trans hline
  subst hother
  obtain rfl := Except.ok.inj ((marshal_soleCodec other).symm.trans hline)
  obtain ⟨left, hleft⟩ := hprefix
  rcases piece with _ | ⟨first, _ | ⟨second, rest⟩⟩
  · exact hsome rfl
  · obtain ⟨rfl, -⟩ := cons_eq_cons.mp hleft
    have hends : torn ++ [123] = [123] ++ [closingBrace] := hbraces
    exact absurd (append_inj' hends rfl).2 (by decide)
  · obtain ⟨rfl, hrest⟩ := cons_eq_cons.mp hleft
    obtain ⟨rfl, hnil⟩ := cons_eq_cons.mp hrest
    obtain ⟨rfl, -⟩ := append_eq_nil_iff.mp hnil
    exact hpartial.elim (fun h => h (append_left_eq_self.mp hbraces)) fun h => h rfl

theorem eq_payload_of_readLine {entry : SpoolRecord} {token : Bytes} {key : String}
    {record : Record} (h : (soleCodec entry).readLine token = .entry key record) :
    record = entry.payload := by
  unfold Codec.readLine at h
  split at h
  · cases h
  split at h
  · cases h
  split at h
  · cases h
  rename_i found hfound
  cases h
  obtain ⟨kind, -, hrest⟩ := Option.bind_eq_some_iff.mp hfound
  obtain ⟨payload, hpayload, hrecord⟩ := Option.bind_eq_some_iff.mp hrest
  cases hrecord
  simp only [soleCodec] at hpayload
  split at hpayload
  · rename_i hkind
    subst hkind
    cases hpayload
    rfl
  · cases hpayload

theorem eq_payload_of_waits {entry : SpoolRecord} {s : Spool Store} {record : Record}
    (hidle : s.fallbacks = []) (h : s.Waits (soleCodec entry) record) : record = entry.payload := by
  rcases h with ⟨fallback, hmem, -⟩ | ⟨before, token, after, key, -, -, -, hread⟩
  · rw [hidle] at hmem
    cases hmem
  · exact eq_payload_of_readLine hread

def drainedStore : Store :=
  (Store.insert {} .shutdownFlowExecution runningExecution).insert .shutdownFlowExecution
    completedExecution

theorem drained_run :
    Spool.InOrder (soleCodec runningEntry) (fun _ => rackWriter) [] { primary := {} }
      [.wrote 0 runningRecord (some refusal), .appended 0 runningEntry none, .opened,
        .delivered runningRecord none, .returned { read := 1, replayed := 1 } none,
        .wrote 0 completedRecord none]
      { disk := { soleJournal with path := none }
        stats := Function.update (fun _ => {}) 0 ⟨1, refusal, rackWriter.path, 0, 3⟩
        primary := drainedStore } := by
  refine .step (.wrote (sqlStore_offline _)) ?_ (fun _ h => nomatch h) ?_
  · rintro record ⟨⟩
    exact ⟨by decide, forall_mem_nil _⟩
  refine .silent (@Spool.Step.appended _ _ _ _ _ [] [] ⟨0, runningRecord, refusal⟩ {} 1 _
    ⟨none, soleJournal, ⟨1, refusal, rackWriter.path, 0, 3⟩⟩ rfl rfl append_runningEntry)
    rfl rfl ?_
  refine .silent (@Spool.Step.opened _ _ _ _ _ "/var/lib/nut-operator" none none none
    { snapshot := ⟨0, 3, 0⟩, limit := 3 } rfl) rfl rfl ?_
  refine .step (@Spool.Step.delivered _ _ _ _ _ _ braces 3 _ _ _ _ rfl rfl
    (readLine_soleCodec rfl) (sqlStore_running _)) (fun _ h => nomatch h) ?_ ?_
  · rintro record ⟨⟩ other hwait
    rw [eq_payload_of_waits rfl hwait]
    exact not_older_self _
  refine .silent (@Spool.Step.concluded _ _ _ _ _
    { snapshot := ⟨0, 3, 0⟩, limit := 3, offset := 3, stats := { read := 1, replayed := 1 } }
    none none rfl rfl) rfl rfl ?_
  refine .step (.wrote (sqlStore_completed _)) ?_ ?_ (.refl _ _)
  · rintro record ⟨⟩
    refine ⟨by decide, ?_⟩
    rintro earlier hmem ⟨kind, first, second, hfirst, hsecond, -, hlt⟩
    obtain rfl : earlier = runningRecord := mem_singleton.mp hmem
    cases hfirst
    cases hsecond
    revert hlt
    decide
  · rintro record ⟨⟩ other (⟨fallback, hmem, -⟩ | hreads)
    · cases hmem
    · exact absurd hreads not_reads_nil

end NutOperator.Audit
