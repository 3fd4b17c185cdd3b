/-
Three small models with known answers.

* An observed Gaussian quantity: its marginal is the observation.
* Two Gaussian factors in a chain: the product of a prior and a likelihood.
* A gain matrix with three rows and two columns: the outbound dimensions come from the matrix.
-/

import SumProduct.Algorithm
import SumProduct.Model

set_option autoImplicit false

namespace SumProduct.CommandLine.Demonstration

open Build (lift)

def vector (entries : List Float) : Tensor Float :=
  Tensor.ofFn [entries.length] fun i => (entries[i]?).getD 0.0

def matrix (rows columns : Nat) (entries : List Float) : Tensor Float :=
  Tensor.ofFn [rows, columns] fun i => (entries[i]?).getD 0.0

def socket (node : NodeKey) (name : String) : Build Socket := do
  return ⟨node, ← lift (((← get).node node).slot (.text name))⟩

def wire (graph : GraphKey) (first : NodeKey × String) (second : NodeKey × String)
    (name : String) : Build Unit := do
  let _ ← Build.connect graph (← socket first.1 first.2) (← socket second.1 second.2) (.named name)
  return ()

def assemble (graph : GraphKey) (steps : List (NodeKey × String)) (target : String)
    (data : Buffers) : Build Model := do
  let sockets ← steps.mapM fun step => socket step.1 step.2
  let network ← get
  let key ← lift (Model.findTarget (network.graph graph) (.text target))
  return ⟨network, graph, network.schedule sockets [] [], [key], data⟩

/-- A standard Gaussian quantity observed at five. -/
def observation : Build Model := do
  let graph ← Build.newGraph .absent
  let mean ← Build.addConstant (.real 0.0) (some "m0") (some graph)
  let variance ← Build.addConstant (.real 1.0) (some "v0") (some graph)
  let factor ← Build.addFactor "GaussianNode" (some "g") (some graph)
  let observed ← Build.addConstant (.real 0.0) (some "obs") (some graph)
  Build.bindPlaceholder graph observed (.text "y") .absent
  wire graph (mean, "out") (factor, "mean") "m"
  wire graph (variance, "out") (factor, "variance") "v"
  wire graph (factor, "out") (observed, "out") "y"
  assemble graph [(mean, "out"), (variance, "out"), (factor, "out"), (observed, "out"),
    (factor, "mean")] "y" [(.text "y", .real 5.0)]

/-- A standard Gaussian quantity, of which a noisy copy is observed at two. -/
def chain : Build Model := do
  let graph ← Build.newGraph .absent
  let mean ← Build.addConstant (.real 0.0) (some "m0") (some graph)
  let variance ← Build.addConstant (.real 1.0) (some "v0") (some graph)
  let noise ← Build.addConstant (.real 1.0) (some "v1") (some graph)
  let prior ← Build.addFactor "GaussianNode" (some "g1") (some graph)
  let likelihood ← Build.addFactor "GaussianNode" (some "g2") (some graph)
  let observed ← Build.addConstant (.real 0.0) (some "obs") (some graph)
  Build.bindPlaceholder graph observed (.text "y") .absent
  wire graph (mean, "out") (prior, "mean") "m"
  wire graph (variance, "out") (prior, "variance") "v"
  wire graph (prior, "out") (likelihood, "mean") "x"
  wire graph (noise, "out") (likelihood, "variance") "w"
  wire graph (likelihood, "out") (observed, "out") "y"
  assemble graph [(mean, "out"), (variance, "out"), (prior, "out"), (noise, "out"),
    (likelihood, "out"), (observed, "out"), (likelihood, "mean"), (prior, "mean")]
    "x" [(.text "y", .real 2.0)]

def gainPoint : Tensor Float := vector [1.0, 2.0]

def gainEntries : Tensor Float := matrix 3 2 [1.0, 0.0, 0.0, 2.0, 1.0, 1.0]

/-- A Gaussian vector, of which the image under a gain is observed. -/
def gain : Build Model := do
  let graph ← Build.newGraph .absent
  let mean ← Build.addConstant (.array (vector [0.0, 0.0])) (some "m0") (some graph)
  let variance ← Build.addConstant (.array (matrix 2 2 [1.0, 0.0, 0.0, 1.0])) (some "v0") (some graph)
  let factor ← Build.addFactor "GaussianNode" (some "g") (some graph)
  let image ← Build.addGain (.array gainEntries) (some "A") (some graph)
  let observed ← Build.addConstant (.array (vector [0.0, 0.0, 0.0])) (some "obs") (some graph)
  Build.bindPlaceholder graph observed (.text "z") .absent
  wire graph (mean, "out") (factor, "mean") "m"
  wire graph (variance, "out") (factor, "variance") "v"
  wire graph (factor, "out") (image, "in") "x"
  wire graph (image, "out") (observed, "out") "z"
  assemble graph [(mean, "out"), (variance, "out"), (factor, "out"), (image, "out"),
    (observed, "out"), (image, "in")] "x"
    [(.text "z", .array (← lift (gainEntries.product gainPoint)))]

end SumProduct.CommandLine.Demonstration
