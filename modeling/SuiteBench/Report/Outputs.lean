import SuiteBench.Report.Collected
import SuiteBench.Report.Summary
import SuiteBench.Settings.Basic

/-!
# Report.Outputs — the files of a report

Everything that a report writes is a list of steps over the collected results; running a front part
of the list leaves each file with its old or its new content.
-/

namespace SuiteBench.Report

/-- A file that a report writes. -/
structure OutputFile where
  path : Path
  location : Location
  content : ByteArray

/-- The steps that write a file. -/
def OutputFile.steps (f : OutputFile) : List Step := Step.replace f.location f.content

variable (settings : ReportSettings) (catalog : Option Catalog) (t : Tree) (c : CollectedResults)

/-- The aggregate of an endpoint. -/
def aggregateOf (e : EndpointResults) : EndpointAggregate :=
  aggregate e.endpoint e.expectedRuns e.records

/-- The aggregates of the endpoints. -/
def aggregates : List EndpointAggregate := c.endpoints.map aggregateOf

/-- The summary of the benchmark. -/
def summary : BenchmarkSummary := .of (aggregates c) c.records

/-- The files in the directory of an endpoint. -/
def endpointFiles (e : EndpointResults) : List OutputFile :=
  let file (name : String) (content : ByteArray) : OutputFile :=
    ⟨(c.dir.endpointDir e.endpoint).join name, c.dir.endpointLocation e.endpoint ++ [name], content⟩
  let a := aggregateOf e
  file Layout.averagesJson a.toJson.fileText ::
    (if settings.endpointTextSummary then [file Layout.averagesText a.text.toUTF8] else []) ++
    [file Layout.testAnalysis (endpointTests c.dir t e).toJson.fileText]

/-- The steps that write the files of an endpoint. -/
def endpointSteps (e : EndpointResults) : List Step :=
  .makeDirs (c.dir.endpointLocation e.endpoint) ::
    (endpointFiles settings t c e).flatMap OutputFile.steps

/-- A file in the results directory. -/
def rootFile (name : String) (content : ByteArray) : OutputFile :=
  ⟨c.dir.path.join name, c.dir.location ++ [name], content⟩

/-- The document of the summary. -/
def metricsFile : OutputFile := rootFile c Layout.metricsSummary (summary c).toJson.fileText

/-- The results table. -/
def resultsFile : OutputFile :=
  rootFile c Layout.resultsTable (resultsTable catalog c.records).toUTF8

/-- The detailed table. -/
def detailedFile : OutputFile := rootFile c Layout.detailedTable (detailedTable c.records).toUTF8

/-- The narrative of the summary. -/
def narrativeFile : OutputFile :=
  rootFile c Layout.summaryReport
    ((summary c).markdown (aggregates c) catalog settings.caveats).toUTF8

/-- The steps that write the aggregates of the endpoints and the summary. -/
def metricsSteps : List Step :=
  c.endpoints.flatMap (endpointSteps settings t c) ++ (metricsFile c).steps

/-- The steps that write every report. -/
def reportSteps : List Step :=
  metricsSteps settings t c ++ (resultsFile catalog c).steps ++
    (if settings.detailedCsv then (detailedFile c).steps else []) ++
    (narrativeFile settings catalog c).steps

end SuiteBench.Report
