import ServiceFlow.CommandLine
import ServiceFlow.Proofs.Export.Guards
import ServiceFlow.Proofs.FileTree.Write
import ServiceFlow.Proofs.Json.Plain
import ServiceFlow.Proofs.Load.Items
import ServiceFlow.Proofs.Load.Text
import ServiceFlow.Proofs.Workflow.RoundTrip

/-!
# A file export is all or nothing

Exporting a file does two things to files: it opens the output, which creates or empties it, and
fills it. `Catalog.exportFile` gives a fault without a tree, which leaves open what had been done by
then. Here an export is a run of actions on a disk, each of which keeps what those before it did,
and this is proved to be the same: all that can fail comes before the output is opened. What is done
to files outside the tree is recorded as well.
-/

namespace ServiceFlow

/-- What can be done to a file. -/
inductive FileEffect where
  /-- It is opened to be written, which creates or empties it. -/
  | opened (place : Place)
  /-- Content is put into it. -/
  | filled (place : Place) (content : List UInt8)
  deriving DecidableEq, Repr

/-- A file tree, with what was done so far to the files in it and to others. -/
structure Disk where
  tree : FileTree
  effects : List FileEffect := []
  deriving DecidableEq, Repr

namespace Disk

/-- The disk after something is done to a file. -/
def apply (d : Disk) (effect : FileEffect) : Disk :=
  let tree := match effect with
    | .opened place => d.tree.storeAt place []
    | .filled place content => d.tree.storeAt place content
  ⟨tree, d.effects ++ [effect]⟩

/-- A file that is filled need not have been empty. -/
theorem apply_opened_filled (d : Disk) (place : Place) (content : List UInt8) :
    (d.apply (.opened place)).apply (.filled place content) =
      ⟨d.tree.storeAt place content, d.effects ++ [.opened place, .filled place content]⟩ := by
  simp only [apply, FileTree.storeAt_storeAt, List.append_assoc, List.cons_append, List.nil_append]

end Disk

/-- An action on a disk. It can fail after it has done something. -/
abbrev FileAction (α : Type) : Type := ExceptT Fault (StateM Disk) α

namespace FileAction

variable {α β : Type}

/-- What an action gives, and the disk it leaves. -/
def runOn (act : FileAction α) (d : Disk) : Except Fault α × Disk := StateT.run (ExceptT.run act) d

/-- The content of the file at a path. -/
def readBytes (p : Path) : FileAction (List UInt8) := do
  ofExcept (((← get).tree.read p).mapError .file)

/-- Opens the file at a path to be written, and gives its place. -/
def openToWrite (p : Path) : FileAction Place := do
  let place ← ofExcept (((← get).tree.openable p).mapError .file)
  modify (·.apply (.opened place))
  return place

/-- Puts content into a file that is open. -/
def fill (place : Place) (content : List UInt8) : FileAction Unit :=
  modify (·.apply (.filled place content))

/-- What follows a failed action is not done. -/
theorem runOn_bind (act : FileAction α) (next : α → FileAction β) (d : Disk) :
    (act >>= next).runOn d = match act.runOn d with
      | (.ok a, after) => (next a).runOn after
      | (.error fault, after) => (.error fault, after) := by
  simp only [runOn, ExceptT.run_bind, StateT.run_bind]
  cases StateT.run (ExceptT.run act) d with
  | mk result after => cases result <;> rfl

/-- Actions that do nothing to the disk, one after the other, do nothing to it. -/
theorem runOn_bind_of_quiet {act : FileAction α} {next : α → FileAction β} {d : Disk}
    {result : Except Fault α} {further : α → Except Fault β} (h : act.runOn d = (result, d))
    (hnext : ∀ a, (next a).runOn d = (further a, d)) :
    (act >>= next).runOn d = (result >>= further, d) := by
  rw [runOn_bind, h]
  cases result with
  | error fault => rfl
  | ok a => exact hnext a

/-- Giving a result or failing does nothing to the disk. -/
theorem runOn_ofExcept (result : Except Fault α) (d : Disk) :
    (ofExcept result : FileAction α).runOn d = (result, d) := by
  cases result <;> rfl

/-- Reading does nothing to the disk. -/
theorem runOn_readBytes (p : Path) (d : Disk) :
    (readBytes p).runOn d = ((d.tree.read p).mapError .file, d) := by
  rw [readBytes, runOn_bind]
  exact runOn_ofExcept _ d

/-- Opening a file is the first thing that is done to a disk, unless it fails. -/
theorem runOn_openToWrite (p : Path) (d : Disk) :
    (openToWrite p).runOn d = match d.tree.openable p with
      | .ok place => (.ok place, d.apply (.opened place))
      | .error fault => (.error (.file fault), d) := by
  have hget (next : Disk → FileAction Place) : (get >>= next).runOn d = (next d).runOn d := rfl
  rw [openToWrite, hget, runOn_bind, runOn_ofExcept]
  cases d.tree.openable p <;> rfl

end FileAction

section Export

open FileAction

/-- Reads the workflow of a graph file. -/
def Catalog.loadAction (c : Catalog) (input : Path) : FileAction Workflow := do
  let bytes ← readBytes input
  let text ← ofExcept ((textOfFile bytes).mapError .encoding)
  let g ← ofExcept (c.readGraph text)
  ofExcept (c.exportGraph g)

/-- Writes a workflow to a file, and gives the record of that. -/
def Workflow.saveAction (w : Workflow) (output : Path) : FileAction LogRecord := do
  let place ← openToWrite output
  fill place (Text.Utf8.encode w.fileText)
  return exportLog output.render

/-- Exports the graph file at a path to a workflow file at another. -/
def Catalog.exportAction (c : Catalog) (input output : Path) :
    FileAction (Workflow × LogRecord) := do
  let w ← c.loadAction input
  let record ← w.saveAction output
  return (w, record)

/-- All that can keep an export from being done, before anything is done: the workflow and the place
to write it. -/
def Catalog.prepare (c : Catalog) (tree : FileTree) (input output : Path) :
    Except Fault (Workflow × Place) := do
  let w ← (tree.read input).mapError .file >>= c.exportBytes
  let place ← (tree.openable output).mapError .file
  return (w, place)

/-- Until there is a workflow nothing is done to the disk. -/
theorem Catalog.runOn_loadAction (c : Catalog) (input : Path) (d : Disk) :
    (c.loadAction input).runOn d =
      ((d.tree.read input).mapError .file >>= c.exportBytes, d) :=
  runOn_bind_of_quiet (runOn_readBytes input d) fun _ =>
    runOn_bind_of_quiet (runOn_ofExcept _ d) fun _ =>
      runOn_bind_of_quiet (runOn_ofExcept _ d) fun _ => runOn_ofExcept _ d

/-- Once the output is open nothing fails. -/
theorem Workflow.runOn_saveAction (w : Workflow) (output : Path) (d : Disk) :
    (w.saveAction output).runOn d = match d.tree.openable output with
      | .ok place => (.ok (exportLog output.render),
          (d.apply (.opened place)).apply (.filled place (Text.Utf8.encode w.fileText)))
      | .error fault => (.error (.file fault), d) := by
  rw [saveAction, runOn_bind, runOn_openToWrite]
  cases d.tree.openable output <;> rfl

/-- The actions of an export have the effects of saving when it is prepared, and none otherwise. -/
theorem Catalog.runOn_exportAction (c : Catalog) (input output : Path) (d : Disk) :
    (c.exportAction input output).runOn d = match c.prepare d.tree input output with
      | .error fault => (.error fault, d)
      | .ok (w, place) => (.ok (w, exportLog output.render),
          ⟨d.tree.storeAt place (Text.Utf8.encode w.fileText), d.effects ++
            [.opened place, .filled place (Text.Utf8.encode w.fileText)]⟩) := by
  rw [exportAction, runOn_bind, c.runOn_loadAction, prepare]
  cases (d.tree.read input).mapError .file >>= c.exportBytes with
  | error fault => rfl
  | ok w =>
      simp only [runOn_bind, w.runOn_saveAction, Disk.apply_opened_filled]
      cases d.tree.openable output <;> rfl

/-- A file is exported when that is prepared. -/
theorem Catalog.exportFile_eq (c : Catalog) (tree : FileTree) (input output : Path) :
    c.exportFile tree input output = (c.prepare tree input output).map fun (w, place) =>
      ⟨w, tree.storeAt place (Text.Utf8.encode w.fileText), exportLog output.render⟩ := by
  rw [exportFile, ← bind_assoc, prepare]
  cases (tree.read input).mapError .file >>= c.exportBytes with
  | error fault => rfl
  | ok w =>
      simp only [bind, Except.bind, FileTree.write_eq]
      cases tree.openable output <;> rfl

/-- An export is prepared when each of its stages succeeds. -/
theorem Catalog.prepare_eq_ok_iff {c : Catalog} {tree : FileTree} {input output : Path}
    {w : Workflow} {place : Place} : c.prepare tree input output = .ok (w, place) ↔
      (∃ bytes text g, tree.read input = .ok bytes ∧ textOfFile bytes = .ok text ∧
        c.readGraph text = .ok g ∧ c.exportGraph g = .ok w) ∧
      tree.openable output = .ok place := by
  simp only [prepare, exportBytes, bind_eq_ok_iff, mapError_eq_ok_iff, pure, Except.pure,
    Except.ok.injEq, Prod.mk.injEq]
  constructor
  · rintro ⟨_, ⟨bytes, hread, text, htext, g, hg, hw⟩, _, hopen, rfl, rfl⟩
    exact ⟨⟨bytes, text, g, hread, htext, hg, hw⟩, hopen⟩
  · rintro ⟨⟨bytes, text, g, hread, htext, hg, hw⟩, hopen⟩
    exact ⟨w, ⟨bytes, hread, text, htext, g, hg, hw⟩, place, hopen, rfl, rfl⟩

end Export

/-- Whether there is what an export needs: a file with a graph that may be exported, and a place for
the output. -/
def Catalog.CanExport (c : Catalog) (tree : FileTree) (input output : Path) : Prop :=
  (∃ bytes text g w, tree.read input = .ok bytes ∧ textOfFile bytes = .ok text ∧
    c.readGraph text = .ok g ∧ c.exportGraph g = .ok w) ∧
  ∃ place, tree.locate output = .ok place ∧ tree.entryAt place ≠ .directory

/-- What a file export that succeeds comes down to. -/
structure FileExport (c : Catalog) (before : Disk) (input output : Path) (e : Exported) :
    Prop where
  /-- The workflow is that of the graph in the input, which may be exported. -/
  source : ∃ bytes text g, before.tree.read input = .ok bytes ∧ textOfFile bytes = .ok text ∧
    c.readGraph text = .ok g ∧ c.compile g = .ok e.workflow ∧ c.exportGraph g = .ok e.workflow
  /-- The file at the output is opened and filled, nothing else is done, and all else that is in the
  tree stays as it is. -/
  effects : ∃ place, before.tree.locate output = .ok place ∧
    (c.exportAction input output).runOn before = (.ok (e.workflow, e.record),
      ⟨e.tree, before.effects ++
        [.opened place, .filled place (Text.Utf8.encode (e.workflow.toJson 2))]⟩) ∧
    ∀ elsewhere, elsewhere ≠ place →
      e.tree.entryAt elsewhere = before.tree.entryAt elsewhere
  /-- The output can be read when it is in the tree. -/
  content : ∀ names, before.tree.locate output = .ok (.inside names) →
    e.tree.read output = .ok (Text.Utf8.encode (e.workflow.toJson 2))
  /-- Its text is the JSON of the workflow. -/
  text : textOfFile (Text.Utf8.encode (e.workflow.toJson 2)) = .ok (e.workflow.toJson 2)
  /-- That JSON stands for the workflow. -/
  value : Json.read (e.workflow.toJson 2) = .ok e.workflow.toValue

/-- A file export that succeeds comes down to that. -/
theorem Catalog.fileExport_of_ok {c : Catalog} {before : Disk} {input output : Path}
    {e : Exported} (h : c.exportFile before.tree input output = .ok e) :
    FileExport c before input output e := by
  have hrun := c.runOn_exportAction input output before
  rw [exportFile_eq] at h
  cases hp : c.prepare before.tree input output with
  | error fault =>
      rw [hp] at h
      cases h
  | ok prepared =>
      obtain ⟨w, place⟩ := prepared
      rw [hp] at h hrun
      obtain rfl := Except.ok.inj h
      -- Both are about the tree before, so the output may well be the input.
      obtain ⟨⟨bytes, text, g, hread, htext, hg, hw⟩, hopen⟩ := prepare_eq_ok_iff.mp hp
      obtain ⟨hlocate, hdir⟩ := FileTree.openable_eq_ok_iff.mp hopen
      have hplain := Json.plain_write w.expressible_toValue (some 2)
      exact {
        source := ⟨bytes, text, g, hread, htext, hg,
          compile_eq_ok_iff.mpr (exportGraph_eq_ok_iff.mp hw).1, hw⟩
        effects := ⟨place, hlocate, hrun, fun _ hne =>
          FileTree.entryAt_storeAt_of_ne (FileTree.reached_of_locate hlocate) hne⟩
        content := by
          intro names hnames
          obtain rfl := Except.ok.inj (hlocate.symm.trans hnames)
          exact FileTree.read_storeAt hlocate hdir
        text := textOfFile_encode hplain.return_notMem
        value := Json.read_write w.expressible_toValue (some 2) }

/-- A file export that fails has done nothing to any file, and there was a need that was not met. -/
theorem Catalog.runOn_exportAction_of_error {c : Catalog} {before : Disk} {input output : Path}
    {fault : Fault} (h : c.exportFile before.tree input output = .error fault) :
    (c.exportAction input output).runOn before = (.error fault, before) ∧
      ¬ c.CanExport before.tree input output := by
  rw [exportFile_eq] at h
  rw [runOn_exportAction]
  cases hp : c.prepare before.tree input output with
  | error other =>
      rw [hp] at h
      refine ⟨by rw [Except.error.inj h], ?_⟩
      rintro ⟨⟨bytes, text, g, w, hstages⟩, place, hopen⟩
      have hok := prepare_eq_ok_iff.mpr
        ⟨⟨bytes, text, g, hstages⟩, FileTree.openable_eq_ok_iff.mpr hopen⟩
      rw [hp] at hok
      cases hok
  | ok prepared =>
      rw [hp] at h
      cases h

namespace CommandLine

/-- What a run over a tree leaves when exporting the file gives a result: the code 0 and the new
tree, or the code 1 and the old tree, with a line for each finding that blocks the export. -/
def Outcome.Reports (out : Outcome) (tree : FileTree) : Except Fault Exported → Prop
  | .ok e => out.exit = 0 ∧ out.tree = e.tree
  | .error (.blocked onGraph onDocument) => out.exit = 1 ∧ out.tree = tree ∧
      out.stdout = String.join ((onGraph.map GraphFinding.message ++
        onDocument.map Finding.message).map fun message => "- " ++ message ++ "\n")
  | .error _ => out.exit = 1 ∧ out.tree = tree

/-- A run reports what exporting the file at the first path to the second gives. -/
theorem run_reports (tree : FileTree) (args : List String) :
    (run tree args).Reports tree (Catalog.default.exportFile tree
      (.ofString (Arguments.ofList args).input) (.ofString (Arguments.ofList args).output)) := by
  unfold run
  dsimp only
  cases Catalog.default.exportFile tree (.ofString (Arguments.ofList args).input)
      (.ofString (Arguments.ofList args).output) with
  | ok e => exact ⟨rfl, rfl⟩
  | error fault =>
      cases fault with
      | blocked onGraph onDocument => exact ⟨rfl, rfl, rfl⟩
      | _ => exact ⟨rfl, rfl⟩

end CommandLine

/-- A path of one file name. -/
def shortPath : Path := { segments := ["g"] }

/-- A disk with one file, which holds a graph. -/
def Graph.disk (g : Graph) : Disk where
  tree := { files := [(["g"], Text.Utf8.encode (Json.write none g.toPayload))] }

/-- A graph whose start node an edge leads back to. -/
def loopedStart : Graph where
  nodes := [{ id := "e", type := "StartNode" }, { id := "s", type := "IDV" },
    { id := "t", type := "EndNode" }]
  edges := [{ id := "a", source := "e", target := "s" },
    { id := "b", source := "s", target := "t" },
    { id := "c", source := "s", target := "e", conditionType := some "nomatch" }]

theorem ofString_shortPath : Path.ofString "g" = shortPath := by
  have hsplit : "g".splitOn "/" = ["g"] := by
    rw [String.splitOn, if_neg (by decide), String.splitOnAux, if_neg (by decide),
      if_neg (by decide), String.splitOnAux, if_pos (by decide)]
    rfl
  rw [Path.ofString, hsplit]
  rfl

/-- The file on the disk of a graph is exported as the graph is, in place. -/
theorem Catalog.exportFile_disk (c : Catalog) (g : Graph) :
    c.exportFile g.disk.tree shortPath shortPath =
      match c.exportGraph (c.classifyGraph g.eraseKinds) with
      | .error fault => .error fault
      | .ok w => .ok ⟨w, ⟨[(["g"], Text.Utf8.encode (w.toJson 2))], []⟩, exportLog "g"⟩ := by
  have hread : g.disk.tree.read shortPath =
      .ok (Text.Utf8.encode (Json.write none g.toPayload)) := rfl
  have hopen : g.disk.tree.openable shortPath = .ok (.inside ["g"]) := rfl
  have hbytes := c.exportBytes_write g none
  rw [exportFile_eq, prepare, hread, hopen]
  simp only [Except.mapError, bind, Except.bind, hbytes]
  cases c.exportGraph (c.classifyGraph g.eraseKinds) <;> rfl

end ServiceFlow
