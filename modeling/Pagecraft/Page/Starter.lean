import Pagecraft.Content.Node

/-! The content with which a new page starts. -/
namespace Pagecraft

def starterJson : Json :=
  let text := Json.ofString
  .record [
    ("site", .record [
      ("title", text "My Landing Page"),
      ("favicon", text "/assets/favicon.ico"),
      ("logoUrl", text "/assets/logo.svg"),
      ("headerElements", text "<!-- GA / Pixel Scripts -->")]),
    ("branding", .record [
      ("primaryColor", text "#3b82f6"),
      ("primaryColorHover", text "#2563eb"),
      ("secondaryColor", text "#f59e0b"),
      ("bgColor", text "#f9fafb"),
      ("sectionBgAlt", text "#f3f4f6"),
      ("textColor", text "#1f2937"),
      ("footerBgColor", text "#f59e0b"),
      ("footerTextColor", text "#ffffff")]),
    ("hero", .record [
      ("headline", text "Your Amazing Product"),
      ("subheadline", text "Transform your business with our innovative solution."),
      ("ctaText", text "Get Started"),
      ("ctaLink", text "#apply"),
      ("note", text "No credit card required."),
      ("heroImage", text "/assets/hero-image.png")]),
    ("featuresSection", .record [("title", text "Features")]),
    ("features", .array [
      .record [
        ("title", text "Feature One"),
        ("description", text "Amazing feature description."),
        ("icon", text "/assets/icons/feature1.svg")],
      .record [
        ("title", text "Feature Two"),
        ("description", text "Another great feature."),
        ("icon", text "/assets/icons/feature2.svg")]]),
    ("howItWorksSection", .record [("title", text "How It Works")]),
    ("howItWorks", .array [
      text "Step one description",
      text "Step two description",
      text "Step three description"]),
    ("offer", .record [
      ("headline", text "Special Offer"),
      ("description", text "Limited time offer for early adopters."),
      ("ctaText", text "Claim Offer"),
      ("ctaLink", text "#apply")]),
    ("faq", .array [
      .record [
        ("q", text "What is this product?"),
        ("a", text "This is an amazing product that solves your problems.")],
      .record [
        ("q", text "How much does it cost?"),
        ("a", text "Pricing starts at $99/month.")]]),
    ("socialLinks", .record [
      ("twitter", text "https://twitter.com/yourcompany"),
      ("linkedin", text "https://linkedin.com/company/yourcompany"),
      ("facebook", text "https://facebook.com/yourcompany"),
      ("whatsapp", text "https://wa.me/1234567890"),
      ("pinterest", text "https://pinterest.com/yourcompany"),
      ("instagram", text "https://instagram.com/yourcompany"),
      ("tiktok", text "https://tiktok.com/@yourcompany"),
      ("mastodon", text "https://mastodon.social/@yourcompany"),
      ("bluesky", text "https://bsky.app/profile/yourcompany.bsky.social")]),
    ("footer", .record [("copyright", text "© 2025 Your Company. All rights reserved.")])]

def Node.starter : Node := .ofJson starterJson

end Pagecraft
