import Companion.Run.Generation

/-!
# Runs

A run generates the contents of all files, renders and formats every one of them, and only then
writes them, one after the other. So a run that fails on what it reads leaves the files as they
were.
-/

set_option autoImplicit false

namespace Companion

/-- What is left of a run: the paths written, the texts rendered, the files and formatters after it,
and what was logged. -/
structure RunReport (σ : Type) where
  result : Except Failure (List Text)
  store : σ
  formatters : List Formatter
  log : List LogEntry := []

/-- What is left of rendering: the texts by path, the formatters after it, and what was logged. -/
structure RenderReport where
  result : Except Failure (List (Text × Text))
  formatters : List Formatter
  log : List LogEntry := []

namespace Pipeline

variable {σ : Type} [FileStore σ]

def plainTexts (pipeline : Pipeline) (files : FileSet) : List (Text × Text) :=
  files.entries.map fun entry => (entry.1, entry.2.render pipeline.header)

def render (pipeline : Pipeline) (respond : Responder) (files : FileSet) : RenderReport :=
  let (result, formatters, log) :=
    Formatter.formatFiles respond pipeline.formatters (pipeline.plainTexts files)
  ⟨result, formatters, log⟩

/-- Generates, renders and formats all files. -/
def prepare (pipeline : Pipeline) (respond : Responder) (store : σ) : RenderReport :=
  let events := pipeline.events store
  match Event.collect {} events with
  | .error failure => ⟨.error failure, pipeline.formatters, Event.log events⟩
  | .ok files =>
    let report := pipeline.render respond files
    { report with log := Event.log events ++ report.log }

def run (pipeline : Pipeline) (respond : Responder) (store : σ) : RunReport σ :=
  let prepared := pipeline.prepare respond store
  match prepared.result with
  | .error failure => ⟨.error failure, store, prepared.formatters, prepared.log⟩
  | .ok texts =>
    let (result, tried, store) := FileStore.writeAll store texts
    ⟨result.map fun _ => texts.map (·.1), store, prepared.formatters,
      prepared.log ++ tried.map LogEntry.writing⟩

end Pipeline

end Companion
