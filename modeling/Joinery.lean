import Joinery.Misuse
import Joinery.Number.Binary64
import Joinery.Number.Circular
import Joinery.Number.Decimal
import Joinery.Number.Basic
import Joinery.Number.Reading
import Joinery.Text.Quoted
import Joinery.Text.Case
import Joinery.Value.Shown
import Joinery.Arithmetic
import Joinery.Formula.Reader
import Joinery.Formula.Evaluation
import Joinery.Parameter.Change
import Joinery.Binding.Registry
import Joinery.Geometry.Box
import Joinery.Joint.Teeth
import Joinery.Joint.Store
import Joinery.Settings.File
import Joinery.Yaml.Reader
import Joinery.Yaml.Writer
import Joinery.Shape.Registry
import Joinery.Main
import Joinery.Design.Layout
import Joinery.Design.Document
import Joinery.Json.Reader
import Joinery.Json.Writer
import Joinery.Proofs.Formula.Grammar
import Joinery.Proofs.Formula.Spelling
import Joinery.Proofs.Formula.Stack
import Joinery.Proofs.Formula.Reading
import Joinery.Proofs.Formula.Words
import Joinery.Proofs.Formula.Failing
import Joinery.Proofs.Formula.Visits
import Joinery.Proofs.Formula.Located
import Joinery.Proofs.Formula.Guarded
import Joinery.Proofs.Number.Doubles
import Joinery.Proofs.Number.Same
import Joinery.Proofs.Fails
import Joinery.Proofs.Geometry.Normal
import Joinery.Proofs.Joint.Slots
import Joinery.Proofs.Joint.Teeth
import Joinery.Proofs.Joint.Keys
import Joinery.Proofs.Value
import Joinery.Proofs.Table
import Joinery.Proofs.Catalogue
import Joinery.Proofs.Parameter.Reloading
import Joinery.Proofs.Parameter.Listening
import Joinery.Proofs.Joint.Maps
import Joinery.Proofs.Joint.Reloading
import Joinery.Proofs.Binding.Reading
import Joinery.Proofs.Binding.Reloading
import Joinery.Proofs.Binding.Chains
import Joinery.Proofs.Binding.Layers
import Joinery.Proofs.Shape.Figure
import Joinery.Proofs.Shape.Reloading
import Joinery.Proofs.Shape.Resolving
import Joinery.Proofs.Design.Edits
import Joinery.Proofs.Design.Reloading
import Joinery.Proofs.Design.Resolving
import Joinery.Proofs.Joint.Removal
import Joinery.Proofs.Joint.Telling
import Joinery.Proofs.Shape.Numbering
import Joinery.Proofs.Design.Numbering
import Joinery.Proofs.Design.Removal
import Joinery.Proofs.CommandLine.Decoding
import Joinery.Proofs.CommandLine.Shapes
import Joinery.Proofs.CommandLine.Loading
import Joinery.Proofs.Geometry.Convex
import Joinery.Proofs.Number.Angles
import Joinery.Proofs.Number.Combining
import Joinery.Proofs.Number.Places
import Joinery.Proofs.Shape.Drawing
import Joinery.Proofs.Joint.Outlines
import Joinery.Proofs.Design.Drawing
import Joinery.Proofs.CommandLine.Checking
import Joinery.Proofs.Number.Extended
import Joinery.Proofs.Geometry.Extended
import Joinery.Proofs.Joint.Measures
import Joinery.Proofs.Joint.Sizes
import Joinery.Proofs.Joint.Limits
import Joinery.Proofs.Joint.Mates
import Joinery.Proofs.Formula.Contexts
import Joinery.Proofs.Binding.Dependence
import Joinery.Proofs.Formula.Moving
import Joinery.Proofs.Formula.Spacing
import Joinery.Proofs.Formula.Nodes
import Joinery.Proofs.Formula.Wording
import Joinery.Proofs.Formula.Slices
import Joinery.Proofs.Formula.Inlining
import Joinery.Proofs.Joint.Rectangles
import Joinery.Proofs.Joint.Trapezoids
import Joinery.Proofs.Number.Opposite
import Joinery.Proofs.Joint.Turning
import Joinery.Proofs.Parameter.Settling
import Joinery.Proofs.Parameter.Histories
import Joinery.Proofs.Shape.Freshness
import Joinery.Proofs.Design.Freshness
import Joinery.Proofs.Binding.LookUps
import Joinery.Proofs.Binding.Naming
import Joinery.Proofs.Geometry.Edges
import Joinery.Proofs.Number.Order
import Joinery.Proofs.Binding.Confined
import Joinery.Proofs.Binding.Traces
import Joinery.Proofs.Shape.Values
import Joinery.Proofs.Design.Selecting
import Joinery.Proofs.Binding.Rounding
import Joinery.Proofs.Binding.Making
import Joinery.Proofs.Binding.Sorts
import Joinery.Proofs.Joint.Loading
import Joinery.Proofs.Joint.Owners
import Joinery.Proofs.Joint.Cascading
import Joinery.Proofs.Binding.Joining
import Joinery.Proofs.Settings.Levels
import Joinery.Proofs.Settings.Reading
import Joinery.Proofs.Settings.Rules
import Joinery.Proofs.Shape.Names
import Joinery.Proofs.Shape.Keys
import Joinery.Proofs.Text.Case
