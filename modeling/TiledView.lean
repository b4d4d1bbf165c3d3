import TiledView.Callback.CommandOutcome
import TiledView.Callback.Dispatcher
import TiledView.Callback.Invalidation
import TiledView.Paint.Pass
import TiledView.Proofs.Plane.Regions
import TiledView.Simulation.Bench
import TiledView.Simulation.ScriptedRenderer
import TiledView.Simulation.ViewerBench
import TiledView.Viewer.Basic
import TiledView.Proofs.Bitmap.Copy
import TiledView.Proofs.Cache.Outline
import TiledView.Proofs.Tiling
import TiledView.Proofs.Cache.Backed
import TiledView.Proofs.Cache.Fit
import TiledView.Proofs.Cache.Recording
import TiledView.Proofs.Cache.Evolution
import TiledView.Proofs.Cache.Action
import TiledView.Proofs.Cache.History
import TiledView.Proofs.Paint.Frame
import TiledView.Proofs.Paint.Reachable
import TiledView.Proofs.Paint.Submissions
import TiledView.Proofs.Paint.Coverage
import TiledView.Proofs.Paint.Picture
import TiledView.Proofs.Paint.Coherence
import TiledView.Proofs.Paint.ScrollRun
import TiledView.Proofs.Scale.Equality
import TiledView.Proofs.Viewport
import TiledView.Proofs.Viewer.Display
import TiledView.Proofs.Viewer.Geometry
import TiledView.Proofs.Viewer.Reachable
import TiledView.Proofs.Engine.Replies
import TiledView.Proofs.Cache.Lending
import TiledView.Proofs.Paint.Lending
import TiledView.Proofs.Paint.Mirror
import TiledView.Proofs.Paint.Outdated
import TiledView.Proofs.Viewer.Calls
import TiledView.Proofs.Viewer.Steps
import TiledView.Proofs.Viewer.Regular
import TiledView.Proofs.Viewer.Arrivals
import TiledView.Proofs.Viewer.Lending
import TiledView.Proofs.Viewer.Opening
import TiledView.Proofs.Viewer.Recovery
import TiledView.Proofs.Viewport.Failure
import TiledView.Proofs.Paint.RealDamage
import TiledView.Proofs.Viewer.Damage
import TiledView.Proofs.Engine.Views
import TiledView.Proofs.Document.Sharing
import TiledView.Proofs.Cache.Marks
import TiledView.Proofs.Cache.Timely
import TiledView.Proofs.Paint.Timely
import TiledView.Proofs.Viewer.Timely
import TiledView.Proofs.Cache.Replacement
import TiledView.Proofs.Document.Readiness
import TiledView.Proofs.Viewer.Relays
import TiledView.Proofs.Callback.Registrations
import TiledView.Proofs.Callback.KeyTable
import TiledView.Proofs.Callback.KeyedDispatcher
import TiledView.Proofs.Callback.Written
import TiledView.Proofs.Cache.Invalidation
import TiledView.Proofs.Viewer.Served
import TiledView.Proofs.Viewer.Invalidations
import TiledView.Proofs.Engine.Thread
import TiledView.Proofs.Engine.Bookkeeping
import TiledView.Proofs.Engine.Isolation
import TiledView.Proofs.Scale.Magnitude
import TiledView.Proofs.Scale.Products
import TiledView.Proofs.Viewport.Clamping
import TiledView.Proofs.Cache.Reachable
import TiledView.Proofs.Cache.Classification
import TiledView.Proofs.Cache.Sizes
import TiledView.Proofs.Paint.Sizes
import TiledView.Proofs.Paint.Report
import TiledView.Proofs.Document.Attaching
import TiledView.Proofs.Viewer.Reopening
import TiledView.Proofs.Tiling.Partition
import TiledView.Proofs.Tiling.Listing
import TiledView.Proofs.Cache.Lookup
import TiledView.Proofs.Cache.Tally
import TiledView.Proofs.Paint.Repetition
import TiledView.Proofs.Scale.Exact
import TiledView.Proofs.Cache.Search
import TiledView.Proofs.Bitmap.Rows
import TiledView.Proofs.Bitmap.Moving
import TiledView.Proofs.Bitmap.Laying
import TiledView.Proofs.Paint.Scrolling
import TiledView.Proofs.Callback.Spacing
import TiledView.Proofs.Callback.Rectangles
import TiledView.Proofs.Paint.Gathering
import TiledView.Proofs.Cache.Consistency
import TiledView.Proofs.Cache.Bounds
