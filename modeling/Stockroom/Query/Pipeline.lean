import Stockroom.Document.Basic
import Stockroom.Json.Printer

/-!
# Aggregation pipelines

A pipeline is a list of group stages. A stage groups documents by the value of one member and sums
other members over each group.
-/

namespace Stockroom

/-- A sum over a group: the member that holds it and the member that is summed. -/
structure SumField where
  output : String
  source : String
  deriving DecidableEq

/-- Documents grouped by a member, with sums over each group. -/
structure GroupStage where
  key : String
  sums : List SumField
  deriving DecidableEq

namespace GroupStage

/-- The member of a group row that holds the key. -/
def keyOutput : String := "_id"

/-- Groups by a member, without sums. -/
def on (key : String) : GroupStage := ⟨key, []⟩

/-- Adds a sum. -/
def sum (stage : GroupStage) (output source : String) : GroupStage :=
  ⟨stage.key, stage.sums ++ [⟨output, source⟩]⟩

/-- A reference to a member of the grouped documents. -/
def reference (field : String) : Json :=
  .string ("$" ++ field)

/-- The members of the document form: the key and then the sums, a later one taking the place of an
earlier one with its name. -/
def outputs (stage : GroupStage) : Document :=
  .ofEntries ((keyOutput, reference stage.key) ::
    stage.sums.map fun sum => (sum.output, .object [("$sum", reference sum.source)]))

/-- The JSON form. -/
def toJson (stage : GroupStage) : Json :=
  .object [("$group", stage.outputs.toJson)]

end GroupStage

/-- Group stages, each applied to the rows of the one before it. -/
structure Pipeline where
  stages : List GroupStage
  deriving DecidableEq

namespace Pipeline

/-- The JSON form: one item for each stage. -/
def toJson (pipeline : Pipeline) : Json :=
  .array (pipeline.stages.map GroupStage.toJson)

/-- The text of the JSON form. -/
def text (pipeline : Pipeline) : String :=
  pipeline.toJson.text

end Pipeline

end Stockroom
