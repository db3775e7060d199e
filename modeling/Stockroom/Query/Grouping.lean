import Stockroom.Json.Same
import Stockroom.Query.Pipeline

/-!
# Grouping documents

A group stage reads documents in their order. Documents whose keys are equal as JSON values fall
into one group, and the groups stand in the order of their first documents. A sum adds the numbers
under its member and passes over everything else.
-/

namespace Stockroom

/-- A group under construction: its key and the sums so far. -/
structure Group where
  key : Json
  totals : List Double
  deriving DecidableEq

namespace GroupStage

/-- The key under which a document is grouped; an absent member counts as `null`. -/
def keyOf (stage : GroupStage) (doc : Document) : Json :=
  (doc.get? stage.key).getD .null

/-- The number that a document adds to a sum. -/
def addend? (sum : SumField) (doc : Document) : Option Double :=
  (doc.get? sum.source).bind Json.toDouble?

/-- A sum after a document. -/
def addTo (doc : Document) (total : Double) (sum : SumField) : Double :=
  match addend? sum doc with
  | some n => total + n
  | none => total

/-- The group after a document. -/
def extend (stage : GroupStage) (doc : Document) (group : Group) : Group :=
  ⟨group.key, List.zipWith (addTo doc) group.totals stage.sums⟩

/-- The group without documents. -/
def emptyGroup (stage : GroupStage) (key : Json) : Group :=
  ⟨key, stage.sums.map fun _ => Double.zero⟩

/-- The groups after a document: the first group with its key takes it up, else a new one does. -/
def addDocument (stage : GroupStage) (doc : Document) : List Group → List Group
  | [] => [stage.extend doc (stage.emptyGroup (stage.keyOf doc))]
  | group :: rest =>
    if group.key.Same (stage.keyOf doc) then stage.extend doc group :: rest
    else group :: addDocument stage doc rest

/-- The groups of documents in the order of their first documents. -/
def groups (stage : GroupStage) (docs : List Document) : List Group :=
  docs.foldl (fun groups doc => stage.addDocument doc groups) []

/-- The row of a group: its key and its sums, `null` for a sum that is not finite. -/
def row (stage : GroupStage) (group : Group) : Document :=
  .ofEntries ((keyOutput, group.key) ::
    List.zipWith (fun sum total => (sum.output, Json.ofDouble total)) stage.sums group.totals)

/-- The rows of documents. -/
def apply (stage : GroupStage) (docs : List Document) : List Document :=
  (stage.groups docs).map stage.row

end GroupStage

/-- The documents after all stages. -/
def Pipeline.apply (pipeline : Pipeline) (docs : List Document) : List Document :=
  pipeline.stages.foldl (fun docs stage => stage.apply docs) docs

end Stockroom
