import CallWatch.Wire.Report

/-!
# Report sinks

An `Outlet` takes reports one at a time and may fail to.  A `Sink` is a tree with outlets at its
leaves: a dispatcher hands a report to each of its sinks in turn, whatever fails, and fails with
the first of their faults.

`Sink.deliver` tells which outlets were tried, what arrived at them and what became of the
delivery.
-/

namespace CallWatch

/-- Why a report could not be delivered. -/
inductive DeliveryFault where
  /-- The collector answered with a status that is no success. -/
  | status (code : Nat)
  /-- The collector could not be reached. -/
  | unreachable
  /-- The file could not be written. -/
  | unwritable
  deriving DecidableEq, Repr

/-- What an outlet got. -/
inductive Arrival where
  /-- The report as it is. -/
  | recorded (report : Report)
  /-- A line of a file, whose content is now `content`. -/
  | appended (content : String)
  /-- The body of a request to the collector. -/
  | posted (body : String)

/-- A try to deliver at one outlet. -/
structure Attempt where
  arrival : Option Arrival := none
  fault : Option DeliveryFault := none

/-! ### Files of lines -/

namespace JsonLines

/-- The content of a file with one more line. -/
def append (content line : String) : String :=
  content ++ line ++ "\n"

/-- The lines of a text, each of which ends with a newline, and what is left behind the last. -/
def split : List Char → List (List Char) × List Char
  | [] => ([], [])
  | c :: rest =>
    let (lines, last) := split rest
    if c = '\n' then ([] :: lines, last)
    else match lines with
      | [] => ([], c :: last)
      | line :: lines => ((c :: line) :: lines, last)

/-- The lines of a file that ends with a newline. -/
def lines (content : String) : List String :=
  (split content.toList).1.map String.ofList

end JsonLines

/-! ### Outlets -/

/-- A place where reports are delivered. -/
inductive Outlet where
  /-- Keeps every report. -/
  | recording
  /-- Fails always. -/
  | failing (fault : DeliveryFault)
  /-- A file to which every report is appended as a line of JSON; `none` before the first. -/
  | file (content : Option String)
  /-- A collector to which every report is posted, and which answers with this status. -/
  | collector (status : Nat)
  /-- Any other place; what comes of a try may depend on all the reports handed over so far. -/
  | other (answer : List Report → Attempt) (handed : List Report := [])

/-- Delivers a report at an outlet. -/
def Outlet.deliver (report : Report) : Outlet → Attempt × Outlet
  | recording => ({ arrival := some (.recorded report) }, recording)
  | failing fault => ({ fault := some fault }, failing fault)
  | file content =>
    let content := JsonLines.append (content.getD "") (Report.form.print report)
    ({ arrival := some (.appended content) }, file (some content))
  | collector status =>
    let fault := if 200 ≤ status ∧ status < 300 then none else some (.status status)
    ({ arrival := some (.posted (Report.form.print report)), fault }, collector status)
  | other answer handed =>
    let handed := handed ++ [report]
    (answer handed, other answer handed)

/-! ### Sinks -/

/-- A tree of outlets. -/
inductive Sink where
  | outlet (outlet : Outlet)
  | dispatcher (sinks : List Sink)

/-- What became of a report that was handed to a sink. -/
structure Delivery where
  /-- The tries, in order. -/
  attempts : List Attempt := []
  /-- Why the delivery failed, if it did. -/
  fault : Option DeliveryFault := none

namespace Delivery

/-- A delivery followed by another one; the first fault counts. -/
def andThen (first second : Delivery) : Delivery where
  attempts := first.attempts ++ second.attempts
  fault := first.fault <|> second.fault

/-- What arrived, in order. -/
def arrivals (delivery : Delivery) : List Arrival :=
  delivery.attempts.filterMap (·.arrival)

end Delivery

namespace Sink

mutual

/-- Delivers a report. -/
def deliver (report : Report) : Sink → Delivery × Sink
  | outlet o =>
    let (attempt, o) := o.deliver report
    ({ attempts := [attempt], fault := attempt.fault }, outlet o)
  | dispatcher sinks =>
    let (delivery, sinks) := deliverAll report sinks
    (delivery, dispatcher sinks)

/-- Delivers a report to every sink of a list in turn. -/
def deliverAll (report : Report) : List Sink → Delivery × List Sink
  | [] => ({}, [])
  | sink :: rest =>
    let (first, sink) := deliver report sink
    let (others, rest) := deliverAll report rest
    (first.andThen others, sink :: rest)

end

mutual

/-- The outlets from left to right. -/
def outlets : Sink → List Outlet
  | outlet o => [o]
  | dispatcher sinks => outletsOf sinks

/-- The outlets of a list of sinks. -/
def outletsOf : List Sink → List Outlet
  | [] => []
  | sink :: rest => outlets sink ++ outletsOf rest

end

/-- The contents of the files, from left to right. -/
def files (sink : Sink) : List (Option String) :=
  sink.outlets.filterMap fun
    | .file content => some content
    | _ => none

end Sink

/-! ### Deliveries so far -/

/-- A sink and what was handed to it so far, first report first. -/
structure Outbox where
  sink : Sink
  sent : Array (Report × Delivery) := #[]

/-- Hands a report to the sink.  What becomes of it is noted, but concerns nobody. -/
def Outbox.send (outbox : Outbox) (report : Report) : Outbox :=
  let (delivery, sink) := outbox.sink.deliver report
  { sink, sent := outbox.sent.push (report, delivery) }

/-- Hands a report to the sink, if there is one. -/
def Outbox.send? (outbox : Outbox) : Option Report → Outbox
  | some report => outbox.send report
  | none => outbox

end CallWatch
