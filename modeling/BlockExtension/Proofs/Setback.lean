import BlockExtension.Proofs.Delivery

/-!
# What a session leaves behind that fails

A session can fail while it reads, validates or generates. Then it has done nothing: all
files are as they were, and no formatter was asked. Or it fails while it writes, at
whichever step the system refuses. A write that is refused leaves at most new directories
behind, so the files are still as they were, unless it was the descriptor that was
refused: then the module is already there as a whole, and it is the only file that is new
or changed.

This is about locations. A path is another matter: it may lead through a directory that
was made on the way, or through a link that the module took the place of, and then it
leads elsewhere than before although no file was damaged.

A formatter is a program of its own and may write files as it likes. What is said here
of files is about formatters that do not.

## Main results

* `run_cases`: a session fails early, whatever the formatter is, or comes to writing.
* `setBack_of_deliver`: what a refused write leaves behind.
* `run_setback`: what a session leaves behind that fails.
-/

namespace BlockExtension.CommandLine

open Files

variable {storage : Artefact → Storage} {naming : Naming} {arguments : Arguments} {tree : Tree}
  {failure : Failure}

/-! ## How far a session comes -/

/-- What is done before comes before what is done next. -/
theorem Session.after_after (first next : List Event) (session : Session) :
    (session.after next).after first = session.after (first ++ next) := by
  simp only [Session.after, List.append_assoc]

/--
A session fails before it comes to the formatter, and then neither a formatter nor a
system makes a difference, or it has generated a module and goes on to format and write it.
-/
theorem run_cases {path : String} (hPath : arguments.configuration = some path)
    (naming : Naming) (tree : Tree) :
    (∃ events failure, (∀ cause, failure ≠ .notWritten cause) ∧
      (∀ program source, .call program source ∉ events) ∧
      ∀ formatter storage,
        run formatter storage naming arguments tree = ⟨tree, events, .error failure⟩) ∨
    ∃ source configuration generated, readText tree path = .ok source ∧
      Configuration.parse source = .ok configuration ∧
      generate naming configuration = .ok generated ∧
      ∀ formatter storage, run formatter storage naming arguments tree =
        (finish formatter storage arguments configuration.extension generated tree).after
          [.stage .reading, .stage .validating, .stage .emitting] := by
  simp only [run, hPath]
  cases hSource : readText tree path with
  | error cause =>
      refine .inl ⟨[.stage .reading], .unreadable path cause, ?_, by simp, fun _ _ => rfl⟩
      intro _ hSame
      cases hSame
  | ok source =>
      simp only [validate]
      cases hParse : Configuration.parse source with
      | error cause =>
          refine .inl ⟨[.stage .reading, .stage .validating], .invalid path cause, ?_, by simp,
            fun _ _ => rfl⟩
          intro _ hSame
          cases hSame
      | ok configuration =>
          simp only [emit]
          cases hGenerate : generate naming configuration with
          | error cause =>
              refine .inl ⟨[.stage .reading, .stage .validating, .stage .emitting],
                .notGenerated path cause, ?_, by simp, fun _ _ => rfl⟩
              intro _ hSame
              cases hSame
          | ok generated =>
              refine .inr ⟨source, configuration, generated, rfl, hParse, hGenerate, ?_⟩
              simp only [Session.after_after, List.cons_append, List.nil_append, implies_true]

/-- Whether its output is taken or not, a formatter leaves the files that it leaves. -/
theorem tree_formatOrKeep (formatter : Formatter) (program source : String) (tree : Tree) :
    (formatter.formatOrKeep program source tree).tree = (formatter program source tree).2 := by
  unfold Formatter.formatOrKeep
  split
  all_goals
    next hFormat => exact (congrArg Prod.snd hFormat).symm

/-- A formatter that writes no files leaves them to what comes next. -/
theorem tree_layOut {formatter : Formatter}
    (hQuiet : ∀ program source tree, (formatter program source tree).2 = tree)
    (arguments : Arguments) (source : String) (tree : Tree) :
    (layOut formatter arguments source tree).2.2 = tree := by
  unfold layOut
  split_ifs
  · rfl
  · rfl
  · exact (tree_formatOrKeep formatter arguments.formatter source tree).trans (hQuiet ..)

/-! ## Refused writes -/

/--
What a refused write leaves behind, when a module and a descriptor were to be delivered.
Either the module was refused, or it is there and the descriptor was refused.
-/
inductive SetBack (storage : Artefact → Storage) (arguments : Arguments) (info : Script.Literal)
    (output text : String) (before final : Tree) (cause : WriteFailure) : Prop where
  /--
  The module was refused. Every location holds what it held or a directory that was made
  for the module, and every path that led to something leads there still.
  -/
  | module (refused : before.writeText (storage .module) output text = (final, .error cause))
      (prepared : Tree.Prepared before output final)
      (found : ∀ path place, before.find path = .ok place → final.find path = .ok place)
  /--
  The descriptor was refused. The module is where its path led when it was written, and
  every other file is as it was. The path still leads there unless the module took the
  place of a link on its way.
  -/
  | descriptor {path : String} {made middle : Tree} {links : List Location} {goal : Location}
      (asked : arguments.descriptor = some path)
      (written : before.writeText (storage .module) output text = (middle, .ok ()))
      (refused : middle.writeText (storage .descriptor) path (descriptorText info) =
        (final, .error cause))
      (prepared : Tree.Prepared before output made)
      (leads : made.LeadsTo output links goal)
      (complete : ∃ mode, final.get? goal = some (.file text.toUTF8 mode))
      (others : ∀ location, location ≠ goal → before.EnlargedAt final location)
      (holds : final.Holds output text ↔ goal ∉ links)

/-- What was written stays when the next write is refused. -/
theorem setBack_of_descriptor {info : Script.Literal} {output text path : String}
    {middle final : Tree} {cause : WriteFailure} (hAsked : arguments.descriptor = some path)
    (hWrite : tree.writeText (storage .module) output text = (middle, .ok ()))
    (hRefused : middle.writeText (storage .descriptor) path (descriptorText info) =
      (final, .error cause)) :
    SetBack storage arguments info output text tree final cause := by
  obtain ⟨made, links, goal, hPrepared, hWritten⟩ := Tree.exists_prepared_of_writeText hWrite
  have hFinal := (Tree.prepared_of_refused hRefused).enlarged
  obtain ⟨mode, hFile⟩ := hWritten.get?_goal
  refine .descriptor hAsked hWrite hRefused hPrepared hWritten.leads
    ⟨mode, hFinal.grows.get?_eq goal _ hFile⟩ (fun location hOther => ?_)
    (hWritten.holds_of_grown_iff hFinal.grows)
  have hMiddle : tree.EnlargedAt middle location := by
    rw [Tree.EnlargedAt, hWritten.get?_of_ne hOther]
    exact hPrepared.enlarged.enlargedAt location
  exact hMiddle.trans (hFinal.enlargedAt location)

/-- A delivery fails with a refused write, and leaves behind what that leaves behind. -/
theorem setBack_of_deliver {info : Script.Literal} {output text : String}
    (h : (deliver storage arguments info output text tree).result = .error failure) :
    ∃ cause, failure = .notWritten cause ∧
      SetBack storage arguments info output text tree
        (deliver storage arguments info output text tree).tree cause := by
  unfold deliver at h ⊢
  rcases hWrite : tree.writeText (storage .module) output text with ⟨middle, cause | _⟩
  · rw [hWrite] at h
    cases h
    have hPrepared := Tree.prepared_of_refused hWrite
    exact ⟨cause, rfl, .module hWrite hPrepared fun _ _ hFind =>
      hPrepared.enlarged.grows.find_eq hFind⟩
  rw [hWrite] at h
  simp only [Session.result_after, Session.tree_after, writeDescriptor] at h ⊢
  cases hAsked : arguments.descriptor with
  | none =>
      rw [hAsked] at h
      cases h
  | some path =>
      rw [hAsked] at h
      simp only at h ⊢
      rcases hRefused : middle.writeText (storage .descriptor) path (descriptorText info) with
        ⟨final, cause | _⟩
      · rw [hRefused] at h
        cases h
        exact ⟨cause, rfl, setBack_of_descriptor hAsked hWrite hRefused⟩
      · rw [hRefused] at h
        cases h

/-! ## Whole sessions -/

/--
A session that fails before it comes to writing has changed nothing and asked no
formatter, so it is the same session with any other, and with any other system. One that
fails while it writes, with a formatter that writes no files, leaves behind what the
refused write leaves behind, whichever step of it was refused.
-/
theorem run_setback {formatter : Formatter} {path : String}
    (hPath : arguments.configuration = some path)
    (hQuiet : ∀ program source tree, (formatter program source tree).2 = tree)
    (hRun : (run formatter storage naming arguments tree).result = .error failure) :
    ((∀ cause, failure ≠ .notWritten cause) →
      (run formatter storage naming arguments tree).tree = tree ∧
        (∀ program source,
          .call program source ∉ (run formatter storage naming arguments tree).events) ∧
        ∀ other system, run other system naming arguments tree =
          run formatter storage naming arguments tree) ∧
    ∀ cause, failure = .notWritten cause →
      ∃ source configuration generated text events, readText tree path = .ok source ∧
        Configuration.parse source = .ok configuration ∧
        generate naming configuration = .ok generated ∧
        layOut formatter arguments generated.source tree = (text, events, tree) ∧
        SetBack storage arguments generated.info (outputPath arguments configuration.extension)
          text tree (run formatter storage naming arguments tree).tree cause := by
  obtain ⟨events, early, hEarly, hUncalled, hSame⟩ | ⟨source, configuration, generated, hSource,
    hParse, hGenerate, hLate⟩ := run_cases hPath naming tree
  · rw [hSame] at hRun ⊢
    cases hRun
    exact ⟨fun _ => ⟨rfl, hUncalled, hSame⟩, fun cause hCause => absurd hCause (hEarly cause)⟩
  · have hTree := tree_layOut hQuiet arguments generated.source tree
    rw [hLate] at hRun ⊢
    rcases hLaid : layOut formatter arguments generated.source tree with ⟨text, events, laid⟩
    rw [hLaid] at hTree
    cases hTree
    simp only [finish, hLaid, Session.result_after, Session.tree_after] at hRun ⊢
    obtain ⟨cause, rfl, hSetBack⟩ := setBack_of_deliver hRun
    refine ⟨fun hOther => absurd rfl (hOther cause), fun found hFound => ?_⟩
    cases hFound
    exact ⟨source, configuration, generated, text, events, hSource, hParse, hGenerate, hLaid,
      hSetBack⟩

/-- A system that refuses to write the text of a descriptor, since its disk is full. -/
def fullForDescriptor : Artefact → Storage
  | .module => .steady
  | .descriptor =>
      { Storage.steady with
        refusal? := fun _ request =>
          match request with
          | .write _ => some .noSpace
          | _ => none }

/--
When the disk is full as the descriptor is written, nothing is left of the descriptor and
the module stays.
-/
theorem run_setback_full :
    (deliverTo "x.js" "d.json").configuration = some "c.json" ∧
      (∀ program source tree, (uncalled program source tree).2 = tree) ∧
      (run uncalled fullForDescriptor .ordinal (deliverTo "x.js" "d.json") workplace).result =
        .error (.notWritten (.text "/work/./.tmp000000" .noSpace)) ∧
      (∃ source configuration generated text events, readText workplace "c.json" = .ok source ∧
        Configuration.parse source = .ok configuration ∧
        generate .ordinal configuration = .ok generated ∧
        layOut uncalled (deliverTo "x.js" "d.json") generated.source workplace =
          (text, events, workplace) ∧
        SetBack fullForDescriptor (deliverTo "x.js" "d.json") generated.info "x.js" text workplace
          (run uncalled fullForDescriptor .ordinal (deliverTo "x.js" "d.json") workplace).tree
          (.text "/work/./.tmp000000" .noSpace)) ∧
      (run uncalled fullForDescriptor .ordinal (deliverTo "x.js" "d.json") workplace).tree.Holds
        "x.js" emptyModule.source := by
  have hFirst (text : String) : workplace.writeText (fullForDescriptor .module) "x.js" text =
      (workplaceWith text, .ok ()) := writeText_workplace text
  have hSecond (text other : String) :
      (workplaceWith text).writeText (fullForDescriptor .descriptor) "d.json" other =
        (workplaceWith text, .error (.text "/work/./.tmp000000" .noSpace)) := by
    have hCreated : (workplaceWith text).createScratch (fullForDescriptor .descriptor)
        (Path.directory "d.json") =
      .ok ((workplaceWith text).put ["work", ".tmp000000"] (.file .empty scratchMode),
        ["work", ".tmp000000"]) := rfl
    have hPath : (workplaceWith text).absolutePath "." ".tmp000000" = "/work/./.tmp000000" := by cbv
    rw [Tree.writeText_eq other rfl rfl hCreated]
    exact congrArg (fun prepared => (workplaceWith text,
      Except.error (WriteFailure.text prepared .noSpace))) hPath
  obtain ⟨hResult, hTree⟩ :=
    run_emptyPalette fullForDescriptor (deliverTo "x.js" "d.json") rfl rfl rfl readText_workplace
  have hRun : (run uncalled fullForDescriptor .ordinal (deliverTo "x.js" "d.json")
      workplace).result = .error (.notWritten (.text "/work/./.tmp000000" .noSpace)) := by
    rw [hResult]
    simp only [deliver, hFirst, writeDescriptor, deliverTo, hSecond, Session.result_after]
  have hQuiet : ∀ program source tree, (uncalled program source tree).2 = tree :=
    fun _ _ _ => rfl
  refine ⟨rfl, hQuiet, hRun, (run_setback rfl hQuiet hRun).2 _ rfl, ?_⟩
  rw [hTree]
  simp only [deliver, hFirst, writeDescriptor, deliverTo, hSecond, Session.tree_after]
  exact ⟨["work", "x.js"], Tree.newFileMode, rfl⟩

def besideDirectory : Tree := workplace.put ["work", "d"] (.directory Tree.newDirectoryMode)

/-- The working directory with another directory in it, and a link to that. -/
def besideLink : Tree := besideDirectory.put ["work", "l"] (.link "d")

/-- A module that is to take the place of a directory is refused, and its path leads there now. -/
theorem writeText_besideDirectory (text : String) :
    besideDirectory.writeText .steady "n/../d" text =
      (besideDirectory.put ["work", "n"] (.directory Tree.newDirectoryMode),
        .error (.file "n/../d" .isDirectory)) := by
  have hMade : besideDirectory.makeDirectories .steady (Path.directory "n/../d") =
      (besideDirectory.put ["work", "n"] (.directory Tree.newDirectoryMode), none) := rfl
  have hCreated : (besideDirectory.put ["work", "n"] (.directory
      Tree.newDirectoryMode)).createScratch .steady (Path.directory "n/../d") =
    .ok ((besideDirectory.put ["work", "n"] (.directory Tree.newDirectoryMode)).put
      ["work", ".tmp000000"] (.file .empty scratchMode), ["work", ".tmp000000"]) := rfl
  rw [Tree.writeText_eq text rfl hMade hCreated]
  rfl

/-- A module takes the place of a link that its own path leads through. -/
theorem writeText_besideLink (text : String) :
    besideLink.writeText .steady "l/../l" text =
      (besideLink.put ["work", "l"] (.file text.toUTF8 0o755), .ok ()) := by
  have hCreated : besideLink.createScratch .steady (Path.directory "l/../l") =
    .ok (besideLink.put ["work", ".tmp000000"] (.file .empty scratchMode),
      ["work", ".tmp000000"]) := rfl
  rw [Tree.writeText_eq text rfl rfl hCreated]
  rfl

/--
Paths may lead elsewhere after a session that failed. A directory made on the way to the
output lets its path lead to a directory that was there before; and a module that took the
place of a link to a directory lets its path lead nowhere, when the descriptor is refused.
-/
theorem not_run_setback_paths :
    (run uncalled unhindered .ordinal (deliverAlone "n/../d") besideDirectory).result =
        .error (.notWritten (.file "n/../d" .isDirectory)) ∧
      ¬ ((run uncalled unhindered .ordinal (deliverAlone "n/../d") besideDirectory).tree.find
            "n/../d" = besideDirectory.find "n/../d" ∨
          (run uncalled unhindered .ordinal (deliverAlone "n/../d") besideDirectory).tree.Holds
            "n/../d" emptyModule.source) ∧
      (run uncalled unhindered .ordinal (deliverTo "l/../l" "c.json/d.json") besideLink).result =
        .error (.notWritten (.directory "c.json" .alreadyExists)) ∧
      ¬ ((run uncalled unhindered .ordinal (deliverTo "l/../l" "c.json/d.json")
            besideLink).tree.find "l/../l" = besideLink.find "l/../l" ∨
          (run uncalled unhindered .ordinal (deliverTo "l/../l" "c.json/d.json")
            besideLink).tree.Holds "l/../l" emptyModule.source) := by
  have hSecond (text other : String) :
      (besideLink.put ["work", "l"] (.file text.toUTF8 0o755)).writeText .steady "c.json/d.json"
          other =
        (besideLink.put ["work", "l"] (.file text.toUTF8 0o755),
          .error (.directory "c.json" .alreadyExists)) := rfl
  have hNew : (besideDirectory.put ["work", "n"] (.directory Tree.newDirectoryMode)).find
      "n/../d" = .ok (["work", "d"], .directory Tree.newDirectoryMode) := rfl
  have hOld : besideDirectory.find "n/../d" = .error .notFound := rfl
  have hLost (text : String) : (besideLink.put ["work", "l"] (.file text.toUTF8 0o755)).find
      "l/../l" = .error .notDirectory := rfl
  have hLed : besideLink.find "l/../l" = .ok (["work", "d"], .directory Tree.newDirectoryMode) :=
    rfl
  obtain ⟨hResult, hTree⟩ := run_emptyPalette unhindered (deliverAlone "n/../d") rfl rfl rfl
    (readText_of_find besideDirectory rfl)
  obtain ⟨hResult', hTree'⟩ := run_emptyPalette unhindered (deliverTo "l/../l" "c.json/d.json")
    rfl rfl rfl (readText_of_find besideLink rfl)
  rw [hResult, hTree, hResult', hTree']
  simp only [deliver, unhindered, writeText_besideDirectory, writeText_besideLink,
    writeDescriptor, deliverTo, hSecond, Session.result_after, Session.tree_after, Tree.Holds,
    hNew, hOld, hLost, hLed]
  simp

end BlockExtension.CommandLine
